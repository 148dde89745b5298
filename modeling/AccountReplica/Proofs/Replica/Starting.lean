import AccountReplica.Proofs.Replica.Sound

/-! The start loop comes to an end wherever the engine enters it, within a number of passes that the queue shows. Among
completion polls alone it would not. -/

namespace AccountReplica

structure OnlyPolls (ops : List Operation) : Prop where
  several : 2 ≤ ops.length
  polls : ∀ op ∈ ops, op.running = false ∧ op.content.kind = .pollCompletion

namespace Engine

def HeadRuns (e : Engine) : Prop :=
  ∃ op rest, e.queue.operations = op :: rest ∧ op.running = true

/-- The start loop makes so many passes from here, and this is what it leaves. -/
inductive Loops : Engine → Nat → Engine → Prop
  | stops {e e' : Engine} (h : e.pass = (e', false)) : Loops e 1 e'
  | goesOn {e e' e'' : Engine} {n : Nat} (h : e.pass = (e', true)) (hn : Loops e' n e'') : Loops e (n + 1) e''

structure StartsWithin (e : Engine) (bound : Nat) : Prop where
  loops : ∃ n ≤ bound, ∀ m e', e.Loops m e' ↔ m = n ∧ e' = e.startFirst
  started : e.startFirst.queue.operations = [] ∨ e.startFirst.HeadRuns

variable {e e' e'' : Engine} {op : Operation} {rest : List Operation} {n m : Nat}

lemma pass_idle (hq : e.queue.operations = op :: rest) (hi : op.running = false) : e.pass = e.start op rest := by
  simp [pass, hq, hi]

lemma pass_running (h : e.HeadRuns) : e.pass = (e, false) := by
  obtain ⟨op, rest, hq, hr⟩ := h
  simp [pass, hq, hr]

lemma Loops.unique (h : e.Loops n e') (h' : e.Loops m e'') : m = n ∧ e'' = e' := by
  induction h generalizing m e'' with
  | stops h =>
    cases h' with
    | stops h' => exact ⟨rfl, by cases h.symm.trans h'; rfl⟩
    | goesOn h' => cases h.symm.trans h'
  | goesOn h _ ih =>
    cases h' with
    | stops h' => cases h.symm.trans h'
    | goesOn h' hn' =>
      cases h.symm.trans h'
      obtain ⟨rfl, rfl⟩ := ih hn'
      exact ⟨rfl, rfl⟩

lemma loops_iff (h : e.Loops n e') : e.Loops m e'' ↔ m = n ∧ e'' = e' := by
  refine ⟨h.unique, ?_⟩
  rintro ⟨rfl, rfl⟩
  exact h

lemma headRuns_run (e : Engine) (op : Operation) (rest : List Operation) : (e.run op rest).HeadRuns :=
  ⟨_, rest, rfl, rfl⟩

lemma HeadRuns.of_queue (h : e.HeadRuns) (hq : e'.queue = e.queue) : e'.HeadRuns := by
  obtain ⟨op, rest, ho, hr⟩ := h
  exact ⟨op, rest, by rw [hq, ho], hr⟩

lemma queue_cancelTimer (e : Engine) : e.cancelTimer.queue = e.queue := by
  unfold cancelTimer
  split <;> rfl

lemma headRuns_reportIncoming (hq : e.queue.operations = op :: rest) (hr : op.running = true)
    (hk : op.content.kind ≠ .pollCompletion) (id : OperationId) (ids : List MessageId) :
    (e.reportIncoming id ids).HeadRuns := by
  obtain ⟨rest', -, ha, -⟩ := OperationQueue.addIncoming_behind hq hk ids
  have hq' : (e.reportIncoming id ids).queue = ⟨op :: rest', e.queue.issued⟩ := ha
  exact ⟨op, rest', by rw [hq'], hr⟩

lemma headRuns_of_start (hs : e.start op rest = (e', false)) : e'.HeadRuns := by
  rw [start] at hs
  split at hs
  · cases hs
    exact headRuns_run e op rest
  · cases hs
    exact (headRuns_run e op rest).of_queue (queue_cancelTimer _)
  · cases hs
    exact headRuns_run e op rest
  · cases hs
    exact headRuns_run e op rest
  · cases hs
  · cases hs
    exact headRuns_run e op rest
  · split at hs
    · cases hs
      exact headRuns_run e op rest
    · cases hs
  · next ev hc =>
    have hn := (tells_announce ((e.run op rest).emit (.dispatch op.id ev)) ev).queue
    dsimp only at hs
    split at hs
    · cases hs
    · cases hs
      have hq : ((e.run op rest).emit (.dispatch op.id ev)).queue.operations =
          ⟨op.id, op.content.started, true⟩ :: rest :=
        rfl
      rw [← hn] at hq
      refine headRuns_reportIncoming hq rfl ?_ _ _
      rw [hc]
      rintro ⟨⟩

lemma exists_loops (h : Startable e.queue.operations) :
    (∃ n ≤ passesLeft e.queue.operations + 1, e.Loops n e.startFirst) ∧
      (e.startFirst.queue.operations = [] ∨ e.startFirst.HeadRuns) := by
  have hs := h
  revert h
  refine startFirst_induct (motive := fun e e' => Startable e.queue.operations →
    (∃ n ≤ passesLeft e.queue.operations + 1, e.Loops n e') ∧ (e'.queue.operations = [] ∨ e'.HeadRuns)) ?_ ?_ ?_ hs
  · intro e hq _
    exact ⟨⟨1, Nat.le_add_left 1 _, .stops (by simp [pass, hq])⟩, .inl hq⟩
  · intro e op rest e' hq hs h
    have hp := pass_idle hq (h.idle op (by rw [hq]; exact List.mem_cons_self))
    exact ⟨⟨1, Nat.le_add_left 1 _, .stops (hp.trans hs)⟩, .inr (headRuns_of_start hs)⟩
  · intro e op rest e' e'' hq hs ih h
    have hp := pass_idle hq (h.idle op (by rw [hq]; exact List.mem_cons_self))
    rw [hq] at h
    obtain ⟨h', hl⟩ := start_goes_on h hs
    obtain ⟨⟨n, hn, hloops⟩, he⟩ := ih h'
    refine ⟨⟨n + 1, ?_, .goesOn (hp.trans hs) hloops⟩, he⟩
    rw [hq]
    omega

lemma passesLeft_le (ops : List Operation) :
    passesLeft ops ≤ kindCount .processEvents ops + kindCount .custom ops + 1 := by
  have hc : ops.countP (fun op => op.content.kind = .processEvents || op.content.kind = .custom) ≤
      kindCount .processEvents ops + kindCount .custom ops := by
    induction ops with
    | nil => exact Nat.le_refl 0
    | cons op ops ih =>
      rw [List.countP_cons, kindCount_cons, kindCount_cons]
      cases op.content.kind <;> simp <;> omega
  have hd := defers_le_one ops
  rw [passesLeft]
  omega

lemma startsWithin_of_startable (h : Startable e.queue.operations) :
    e.StartsWithin (kindCount .processEvents e.queue.operations + kindCount .custom e.queue.operations + 2) := by
  obtain ⟨⟨n, hn, hl⟩, hs⟩ := exists_loops h
  have hb := passesLeft_le e.queue.operations
  exact ⟨⟨n, by omega, fun m e' => loops_iff hl⟩, hs⟩

lemma startsWithin_of_headRuns (h : e.HeadRuns) : e.StartsWithin 1 := by
  have he : e.startFirst = e := by
    obtain ⟨op, rest, hq, hr⟩ := h
    exact startFirst_running hq hr
  have hl : e.Loops 1 e.startFirst := .stops (by rw [he, pass_running h])
  exact ⟨⟨1, Nat.le_refl 1, fun m e' => loops_iff hl⟩, .inr (by rw [he]; exact h)⟩

lemma goesOn_of_onlyPolls (h : OnlyPolls e.queue.operations) :
    ∃ e', e.pass = (e', true) ∧ OnlyPolls e'.queue.operations := by
  obtain ⟨hl, hp⟩ := h
  cases hq : e.queue.operations with
  | nil => simp [hq] at hl
  | cons op rest =>
    rw [hq] at hl hp
    obtain ⟨hi, hk⟩ := hp op List.mem_cons_self
    obtain ⟨id, c, running⟩ := op
    cases c with
    | pollCompletion ids subscribers =>
      have hr : rest ≠ [] := by
        rintro rfl
        simp at hl
      have hp' := pass_idle hq hi
      simp only [start, List.isEmpty_iff, if_neg hr] at hp'
      refine ⟨_, hp', ?_, ?_⟩
      · simpa [OperationQueue.insertLast, drop] using hl
      · simp only [OperationQueue.insertLast, drop, List.forall_mem_append, List.forall_mem_singleton]
        exact ⟨fun op hm => hp op (List.mem_cons_of_mem _ hm), trivial, rfl⟩
    | _ => cases hk

lemma not_loops_of_onlyPolls (h : OnlyPolls e.queue.operations) (n : Nat) (e' : Engine) : ¬e.Loops n e' := by
  intro hl
  induction hl with
  | stops hs =>
    obtain ⟨e'', hg, -⟩ := goesOn_of_onlyPolls h
    cases hs.symm.trans hg
  | goesOn hs _ ih =>
    obtain ⟨e'', hg, h'⟩ := goesOn_of_onlyPolls h
    cases hs.symm.trans hg
    exact ih h'

lemma startable_or_headRuns {i : Input} (hs : e.Settled) (hd : e.Due i) :
    Startable (e.receive i).queue.operations ∨ (e.receive i).HeadRuns := by
  cases hd with
  | command c =>
    obtain ⟨hq, ht⟩ | ⟨op, rest, hq, hr, ho, -⟩ := hs
    · exact .inl (waiting_command hq ht c).1.ready.startable
    · obtain ⟨op', rest', hq', ha, -⟩ := (obeys_command hq hr ho c).queue
      exact .inr ⟨op', rest', hq', ha.running.trans hr⟩
  | report op rest report hq hk =>
    obtain ⟨hr, ho, ht⟩ := hs.head hq
    exact .inl (handles_report hq hr ho ht hk).ready.startable

end Engine

namespace Replica

/-- With nothing running and at most one completion poll the start loop ends in time, and a head that runs already ends
it at once. In every run the engine enters it in such a state only. -/
theorem startsWithin_of_run (retryDelay : Nat) (storage : SharedStorage) (moves : List Move) :
    (∀ e : Engine, Startable e.queue.operations → e.StartsWithin
      (kindCount .processEvents e.queue.operations + kindCount .custom e.queue.operations + 2)) ∧
    (∀ e : Engine, e.HeadRuns → e.StartsWithin 1) ∧
    (∀ e i, .turn e i ∈ ((new retryDelay storage).run moves).history →
      Startable (e.receive i).queue.operations ∨ (e.receive i).HeadRuns) ∧
    ∀ e : Engine, OnlyPolls e.queue.operations → ∀ n e', ¬e.Loops n e' := by
  refine ⟨fun e => Engine.startsWithin_of_startable, fun e => Engine.startsWithin_of_headRuns, ?_,
    fun e => Engine.not_loops_of_onlyPolls⟩
  intro e i h
  obtain ⟨hs, -, hd⟩ := due_of_turn h
  exact Engine.startable_or_headRuns hs hd

def sampleEngine : Engine :=
  { Engine.new 2000 with
    queue := ⟨[⟨⟨1⟩, .pollCompletion [] [0], false⟩, ⟨⟨2⟩, .processEvents (.ofAlerts [⟨"hello", false⟩]), false⟩,
      ⟨⟨3⟩, .custom none, false⟩], 3⟩ }

theorem startsWithin_sampleEngine : Startable sampleEngine.queue.operations ∧ sampleEngine.StartsWithin 4 :=
  have h : Startable sampleEngine.queue.operations := ⟨by decide, by decide⟩
  ⟨h, (startsWithin_of_run 2000 sampleStorage []).1 sampleEngine h⟩

end Replica

end AccountReplica
