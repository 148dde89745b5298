import AccountReplica.Proofs.Replica.Deliveries

/-! Who waits for a completion poll. There is one such poll at most, and each subscriber stays in it until it is taken
off or told. -/

namespace AccountReplica

def Content.subscribers : Content → List SubscriberId
  | pollCompletion _ subscribers => subscribers
  | _ => []

def Operation.without (s : SubscriberId) (op : Operation) : Operation :=
  match op.content with
  | .pollCompletion ids subscribers => { op with content := .pollCompletion ids (subscribers.filter (· ≠ s)) }
  | _ => op

namespace Entry

def joined : Entry → List SubscriberId
  | turn _ (.command (.pollCompletion s)) => [s]
  | _ => []

def removed : Entry → List SubscriberId
  | turn e (.command (.cancelCompletion s)) => e.subscribers.filter (· = s)
  | _ => []

def answered (x : Entry) : List SubscriberId :=
  (x.effects.filterMap Effect.answered?).map (·.1)

end Entry

lemma map_without {s : SubscriberId} {ops : List Operation} (h : kindCount .pollCompletion ops = 0) :
    ops.map (·.without s) = ops := by
  induction ops with
  | nil => rfl
  | cons op ops ih =>
    obtain ⟨id, c, running⟩ := op
    rw [kindCount_cons] at h
    cases c with
    | pollCompletion ids subscribers => cases h
    | _ => exact congrArg _ (ih (by simpa [Content.kind] using h))

namespace OperationQueue

lemma updateCompletion?_without {s : SubscriberId} {ops : List Operation} (h : kindCount .pollCompletion ops ≤ 1) :
    (updateCompletion? (fun ids subscribers => (ids, subscribers.filter (· ≠ s))) ops).getD ops =
      ops.map (·.without s) := by
  induction ops with
  | nil => rfl
  | cons op ops ih =>
    obtain ⟨id, c, running⟩ := op
    rw [kindCount_cons] at h
    cases c with
    | pollCompletion ids subscribers =>
      have h0 : kindCount .pollCompletion ops = 0 := by simpa [Content.kind] using h
      rw [List.map_cons, map_without h0]
      rfl
    | _ =>
      have hr := ih (by simpa [Content.kind] using h)
      rw [List.map_cons, ← hr]
      simp only [updateCompletion?]
      cases updateCompletion? (fun ids subscribers => (ids, subscribers.filter (· ≠ s))) ops <;> rfl

lemma cancelCompletion_eq {q : OperationQueue} (h : kindCount .pollCompletion q.operations ≤ 1) (s : SubscriberId) :
    q.cancelCompletion s = { q with operations := q.operations.map (·.without s) } := by
  rw [← updateCompletion?_without h]
  simp only [cancelCompletion, withCompletion?]
  cases updateCompletion? (fun ids subscribers => (ids, subscribers.filter (· ≠ s))) q.operations <;> rfl

end OperationQueue

namespace Engine

/-- Where the completion poll is looked for when the input is taken. -/
inductive Searched (e : Engine) : Input → OperationQueue → Prop
  | join (s : SubscriberId) : e.Searched (.command (.pollCompletion s)) e.queue
  | cancel (s : SubscriberId) : e.Searched (.command (.cancelCompletion s)) e.queue
  | incoming (i : Input) (n : Nat) (op : Operation) (rest : List Operation)
      (hq : (passes n (e.receive i)).queue.operations = op :: rest) (hk : op.content.kind = .processEvents) :
      e.Searched i ((passes n (e.receive i)).run op rest).queue

variable {e : Engine} {op : Operation} {rest : List Operation} {i : Input}

lemma Settled.completions (h : e.Settled) : kindCount .pollCompletion e.queue.operations ≤ 1 := by
  obtain ⟨hq, -⟩ | ⟨op, rest, hq, -, ho, -⟩ := h
  · rw [hq]
    exact Nat.zero_le 1
  · rw [hq]
    exact ho.completions

lemma Ready.completions_passes (h : e.Ready) (n : Nat) :
    kindCount .pollCompletion (passes n e).queue.operations ≤ 1 := by
  induction n generalizing e with
  | zero => exact h.startable.completions
  | succ n ih =>
    simp only [passes]
    cases h with
    | rest hq => simp [pass, hq]
    | first op rest hq hi hw ho ht =>
      simp only [pass, hq, hi]
      cases hs : e.start op rest with
      | mk e' more =>
        cases more with
        | false => exact (starts_of_start hq ho hw ht hs).settled.completions
        | true => exact ih (waiting_of_start hq ho hw ht hs).1.ready

lemma completions_passes (h : e.Settled) (hd : e.Due i) (n : Nat) :
    kindCount .pollCompletion (passes n (e.receive i)).queue.operations ≤ 1 := by
  cases hd with
  | command c =>
    obtain ⟨hq, ht⟩ | ⟨op, rest, hq, hr, ho, -⟩ := h
    · exact (waiting_command hq ht c).1.ready.completions_passes n
    · obtain ⟨op', rest', hq', ha, ho', -⟩ := (obeys_command hq hr ho c).queue
      rw [receive, passes_running hq' (ha.running.trans hr), hq']
      exact ho'.completions
  | report op rest r hq hk =>
    obtain ⟨hr, ho, ht⟩ := h.head hq
    exact (handles_report hq hr ho ht hk).ready.completions_passes n

lemma completions_searched {q : OperationQueue} (h : e.Settled) (hd : e.Due i) (hs : e.Searched i q) :
    kindCount .pollCompletion q.operations ≤ 1 := by
  cases hs with
  | join s => exact h.completions
  | cancel s => exact h.completions
  | incoming _ n op rest hq hk =>
    have := completions_passes h hd n
    rw [hq] at this
    simpa [run, kindCount_cons] using this

lemma queue_cancelled (h : e.Settled) (s : SubscriberId) :
    (e.step (.command (.cancelCompletion s))).queue =
      { e.queue with operations := e.queue.operations.map (·.without s) } := by
  have hc := OperationQueue.cancelCompletion_eq h.completions s
  rw [step, (silent_refreshUpdating _).queue, receive]
  obtain ⟨hq, ht⟩ | ⟨op, rest, hq, hr, ho, ht⟩ := h
  · have hq' : (e.command (.cancelCompletion s)).queue.operations = [] := by
      rw [command, hc, hq]
      rfl
    rw [startFirst_rest hq']
    exact hc
  · obtain ⟨op', rest', hq', ha, -⟩ := (obeys_command hq hr ho (.cancelCompletion s)).queue
    rw [startFirst_running hq' (ha.running.trans hr)]
    exact hc

lemma answered_command (h : e.Settled) (he : e.effects = []) (c : Command) :
    (Entry.turn e (.command c)).answered = [] := by
  rw [Entry.answered, Entry.effects, filterMap_answered]
  cases hq : e.queue.operations with
  | nil =>
    obtain ⟨-, -, ds, hl, hx⟩ := turn_of_rest h hq c
    rw [hx, he]
    simp [answered?_launched hl]
  | cons op rest =>
    rw [(obeys_step h hq c).deeds, he]
    rfl

lemma answered_report {r : Report} (h : e.Settled) (he : e.effects = []) (hq : e.queue.operations = op :: rest)
    (hk : r.kind = op.content.kind) : (Entry.turn e (.report op.id r)).answered = op.content.subscribers := by
  obtain ⟨-, -, ds, hl, hx⟩ := turn_of_report h hq hk
  rw [Entry.answered, Entry.effects, filterMap_answered, hx, he]
  have ht : (r.told.map Deed.tell).filterMap Deed.answered? = [] := by simp [Deed.answered?]
  simp only [deeds_nil, List.nil_append, List.filterMap_append, ht, answered?_launched hl, List.append_nil]
  cases op.content with
  | pollCompletion ids subscribers =>
    simp [Content.answers, Content.subscribers, List.filterMap_map, Function.comp_def, Deed.answered?]
  | _ => rfl

lemma subscribers_cons (h : e.Settled) (hq : e.queue.operations = op :: rest) :
    e.subscribers = op.content.subscribers ++ (rest.findSome? (·.content.completion?)).elim [] (·.2) := by
  obtain ⟨-, ho, -⟩ := h.head hq
  rw [subscribers, OperationQueue.completion?_eq, hq, List.findSome?_cons]
  cases hc : op.content with
  | pollCompletion ids subscribers =>
    rw [findSome?_completion_eq_none (ho.completions_behind (by rw [hc]; rfl))]
    simp [Content.completion?, Content.subscribers]
  | _ => rfl

lemma subscribers_of_report {r : Report} (h : e.Settled) (hq : e.queue.operations = op :: rest)
    (hk : r.kind = op.content.kind) :
    (e.step (.report op.id r)).subscribers = (rest.findSome? (·.content.completion?)).elim [] (·.2) := by
  rw [subscribers, completion_of_report h hq hk]
  cases rest.findSome? (·.content.completion?) <;> rfl

lemma count_step (h : e.Settled) (he : e.effects = []) (hd : e.Due i) (s : SubscriberId) :
    e.subscribers.count s + (Entry.turn e i).joined.count s =
      (e.step i).subscribers.count s + (Entry.turn e i).removed.count s + (Entry.turn e i).answered.count s := by
  cases hd with
  | command c =>
    have hc : (e.step (.command c)).subscribers = (c.onCompletion e.queue.completion?).elim [] (·.2) :=
      congrArg (·.elim [] (·.2)) (completion_step h c)
    rw [answered_command h he, hc]
    cases c with
    | pollCompletion s' =>
      rw [subscribers]
      cases e.queue.completion? <;> simp [Command.onCompletion, Entry.joined, Entry.removed]
    | cancelCompletion s' =>
      have hn : (Command.onCompletion (.cancelCompletion s') e.queue.completion?).elim [] (·.2) =
          e.subscribers.filter fun x => !decide (x = s') := by
        rw [subscribers]
        cases e.queue.completion? <;> simp [Command.onCompletion]
      have hp := (List.filter_append_perm (fun x => decide (x = s')) e.subscribers).count_eq s
      rw [List.count_append] at hp
      simp only [hn, Entry.joined, Entry.removed, List.count_nil]
      omega
    | _ => simp [Command.onCompletion, Entry.joined, Entry.removed, subscribers]
  | report op rest r hq hk =>
    rw [answered_report h he hq hk, subscribers_of_report h hq hk, subscribers_cons h hq, List.count_append]
    simp only [Entry.joined, Entry.removed, List.count_nil]
    omega

lemma fence_of_answer (h : e.Settled) (he : e.effects = []) (hd : e.Due i) {s : SubscriberId} {ids : List MessageId}
    (hm : .answerCompletion s ids ∈ (e.step i).effects) : ∃ id result, i = .report id (.fenceCompleted result) := by
  have hs : s ∈ (Entry.turn e i).answered :=
    List.mem_map.mpr ⟨(s, ids), List.mem_filterMap.mpr ⟨_, hm, rfl⟩, rfl⟩
  cases hd with
  | command c =>
    rw [answered_command h he] at hs
    cases hs
  | report op rest r hq hk =>
    rw [answered_report h he hq hk] at hs
    cases hc : op.content with
    | pollCompletion =>
      rw [hc] at hk
      cases r with
      | fenceCompleted result => exact ⟨op.id, result, rfl⟩
      | _ => cases hk
    | _ =>
      rw [hc] at hs
      cases hs

end Engine

namespace Replica

structure KeepsWaiters (r : Replica) : Prop where
  single : kindCount .pollCompletion r.engine.queue.operations ≤ 1
  singleInTurn : ∀ e i n, .turn e i ∈ r.history →
    kindCount .pollCompletion (Engine.passes n (e.receive i)).queue.operations ≤ 1
  searched : ∀ e i q, .turn e i ∈ r.history → e.Searched i q → kindCount .pollCompletion q.operations ≤ 1
  /-- Who has joined waits still, was taken off, or was told: one of the three, and once. -/
  placed : ∀ s ∈ r.history.flatMap Entry.joined,
    r.engine.subscribers.count s + (r.history.flatMap Entry.removed).count s +
      (r.history.flatMap Entry.answered).count s = 1
  answered : ∀ e i s ids, .turn e i ∈ r.history → .answerCompletion s ids ∈ (e.step i).effects →
    ∃ id result, i = .report id (.fenceCompleted result)
  cancelled : ∀ e s, .turn e (.command (.cancelCompletion s)) ∈ r.history →
    (e.step (.command (.cancelCompletion s))).queue =
      { e.queue with operations := e.queue.operations.map (·.without s) }

def Balanced (r : Replica) : Prop :=
  ∀ s, (r.history.flatMap Entry.joined).count s =
    r.engine.subscribers.count s + (r.history.flatMap Entry.removed).count s +
      (r.history.flatMap Entry.answered).count s

lemma balanced_advance {r r' : Replica} (hs : r.Sound) (ha : r.Advance r') (h : r.Balanced) : r'.Balanced := by
  intro s
  have hr := h s
  obtain ⟨i, underway, hd, rfl⟩ | ⟨he, hh | ⟨id, what, hh⟩⟩ := ha.turned_or
  · have hstep := Engine.count_step hs.settled hs.effects hd s
    have he : (r.turned i underway).engine.subscribers = (r.engine.step i).subscribers := rfl
    rw [he]
    simp only [turned, List.flatMap_append, List.flatMap_singleton, List.count_append]
    omega
  · rw [hh, he]
    exact hr
  · rw [hh, he]
    simpa [Entry.joined, Entry.removed, Entry.answered, Entry.effects] using hr

lemma balanced_of_run (retryDelay : Nat) (storage : SharedStorage) (moves : List Move) :
    ((new retryDelay storage).run moves).Balanced :=
  run_induct (fun _ => rfl) (fun _ _ => balanced_advance) moves

theorem keepsWaiters_of_run {retryDelay : Nat} {storage : SharedStorage} {moves : List Move}
    (hd : (((new retryDelay storage).run moves).history.flatMap Entry.joined).Nodup) :
    ((new retryDelay storage).run moves).KeepsWaiters where
  single := (sound_of_run retryDelay storage moves).settled.completions
  singleInTurn e i n h := by
    obtain ⟨hs, -, hdue⟩ := due_of_turn h
    exact Engine.completions_passes hs hdue n
  searched e i q h hq := by
    obtain ⟨hs, -, hdue⟩ := due_of_turn h
    exact Engine.completions_searched hs hdue hq
  placed s hs := by
    rw [← balanced_of_run retryDelay storage moves s]
    exact List.count_eq_one_of_mem hd hs
  answered e i s ids h hm := by
    obtain ⟨hs, he, hdue⟩ := due_of_turn h
    exact Engine.fence_of_answer hs he hdue hm
  cancelled e s h := Engine.queue_cancelled (due_of_turn h).1 s

def comingAndGoing : List Move :=
  [.command (.pollCompletion 1), .proceed 0 calm, .command (.pollCompletion 2), .command (.cancelCompletion 1),
    .deliver 0, .command (.pollCompletion 3)]

theorem keepsWaiters_of_comingAndGoing :
    (((new 2 sampleStorage).run comingAndGoing).history.flatMap Entry.joined = [1, 2, 3] ∧
      ((new 2 sampleStorage).run comingAndGoing).history.flatMap Entry.removed = [1] ∧
      ((new 2 sampleStorage).run comingAndGoing).history.flatMap Entry.answered = [2] ∧
      ((new 2 sampleStorage).run comingAndGoing).engine.subscribers = [3]) ∧
    ((new 2 sampleStorage).run comingAndGoing).KeepsWaiters := by
  have hj : ((new 2 sampleStorage).run comingAndGoing).history.flatMap Entry.joined = [1, 2, 3] := rfl
  exact ⟨⟨hj, rfl, rfl, rfl⟩, keepsWaiters_of_run (by rw [hj]; decide)⟩

end Replica

end AccountReplica
