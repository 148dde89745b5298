import AccountReplica.Engine.Step
import AccountReplica.Proofs.Engine.Start

/-! The engine between its turns, and what starting operations brings about: an operation runs unless
the queue is empty, and what is under way outside belongs to it. -/

namespace AccountReplica

/-- What an effect does besides telling news: it dispatches an event set, launches a task or the timer,
cancels the timer, or answers a subscriber. -/
inductive Deed
  | tell (events : EventSet)
  | launch (id : OperationId) (task : Option Task)
  | cancel (id : OperationId)
  | answer (subscriber : SubscriberId) (ids : List MessageId)

def Effect.deed? : Effect → Option Deed
  | dispatch _ events => some (.tell events)
  | spawn id task => some (.launch id (some task))
  | armTimer id _ => some (.launch id none)
  | cancelTimer id => some (.cancel id)
  | answerCompletion s ids => some (.answer s ids)
  | _ => none

def deeds (xs : List Effect) : List Deed :=
  xs.filterMap Effect.deed?

@[simp] lemma deeds_nil : deeds [] = [] := rfl

@[simp] lemma deeds_append (xs ys : List Effect) : deeds (xs ++ ys) = deeds xs ++ deeds ys :=
  List.filterMap_append

@[simp] lemma deeds_cons (x : Effect) (xs : List Effect) : deeds (x :: xs) = x.deed?.toList ++ deeds xs := by
  cases h : x.deed? <;> simp [deeds, h]

lemma Effect.IsNews.deed? {x : Effect} (h : x.IsNews) : x.deed? = none := by
  cases x <;> first | rfl | cases h

lemma Engine.Tells.deeds {e e' : Engine} (h : e.Tells e') : deeds e'.effects = deeds e.effects := by
  obtain ⟨xs, rfl, hx⟩ := h
  have : AccountReplica.deeds xs = [] := List.filterMap_eq_nil_iff.mpr fun x hm => (hx x hm).deed?
  simp [this]

namespace Content

def Whole : Content → Prop
  | custom work => work.isSome
  | replayPrecomputed state waiter => state.isSome ∧ waiter.isSome
  | _ => True

lemma Waits.whole {c : Content} (h : c.Waits) : c.Whole := by
  cases c <;> first | exact h | trivial

def task : Content → Option Task
  | pollDifference events => some (.pollDifference events)
  | collectGroups .. => none
  | processGroups groups => some (.replayGroups groups)
  | custom work => work.map .custom
  | pollCompletion .. => some .fence
  | processEvents events => some (.resolveNotifications events.added)
  | replayPrecomputed state _ => some (.replayPrecomputed (state.getD .empty))

@[simp] lemma kind_started (c : Content) : c.started.kind = c.kind := by
  cases c <;> rfl

@[simp] lemma completion?_started (c : Content) : c.started.completion? = c.completion? := by
  cases c <;> rfl

def told : Content → List EventSet
  | processEvents events => [events]
  | _ => []

def carried : Content → EventSet
  | pollDifference events => events
  | _ => .empty

lemma Waits.told {c : Content} (h : c.Waits) : c.told = [] := by
  cases c <;> first | rfl | cases h

lemma Waits.carried {c : Content} (h : c.Waits) : c.carried = .empty := by
  cases c <;> first | rfl | exact h

end Content

namespace Engine

structure Waiting (e : Engine) : Prop where
  orderly : Orderly [] e.queue.operations e.queue.issued
  timer : e.timer = none

inductive Ready (e : Engine) : Prop
  | rest (hq : e.queue.operations = []) (ht : e.timer = none)
  | first (op : Operation) (rest : List Operation) (hq : e.queue.operations = op :: rest)
      (hi : op.running = false) (hw : op.content.Whole) (ho : Orderly [op] rest e.queue.issued)
      (ht : e.timer = none)

/-- The head of the queue runs, and the timer is armed if it waits for it. -/
inductive Settled (e : Engine) : Prop
  | rest (hq : e.queue.operations = []) (ht : e.timer = none)
  | busy (op : Operation) (rest : List Operation) (hq : e.queue.operations = op :: rest)
      (hr : op.running = true) (ho : Orderly [op] rest e.queue.issued)
      (ht : e.timer = if op.content.kind = .collectGroups then some op.id else none)

def front (e : Engine) : Option Content :=
  e.queue.operations.head?.map (·.content)

def told (e : Engine) : List EventSet :=
  e.front.elim [] Content.told

def carried (e : Engine) : EventSet :=
  e.front.elim .empty Content.carried

variable {e e' : Engine} {op : Operation} {rest : List Operation}

lemma front_cons (hq : e.queue.operations = op :: rest) : e.front = some op.content := by
  simp [front, hq]

lemma told_cons (hq : e.queue.operations = op :: rest) : e.told = op.content.told := by
  simp [told, front_cons hq]

lemma carried_cons (hq : e.queue.operations = op :: rest) : e.carried = op.content.carried := by
  simp [carried, front_cons hq]

lemma Settled.timer_of_empty (h : e.Settled) (hq : e.queue.operations = []) : e.timer = none := by
  obtain ⟨-, ht⟩ | ⟨op, rest, hq', -⟩ := h
  · exact ht
  · cases hq.symm.trans hq'

lemma Settled.head (h : e.Settled) (hq : e.queue.operations = op :: rest) :
    op.running = true ∧ Orderly [op] rest e.queue.issued ∧
      e.timer = if op.content.kind = .collectGroups then some op.id else none := by
  obtain ⟨hq', -⟩ | ⟨op', rest', hq', hr, ho, ht⟩ := h
  · cases hq.symm.trans hq'
  · obtain ⟨rfl, rfl⟩ := List.cons.inj (hq.symm.trans hq')
    exact ⟨hr, ho, ht⟩

namespace Waiting

lemma ready (h : e.Waiting) : e.Ready := by
  cases hq : e.queue.operations with
  | nil => exact .rest hq h.timer
  | cons op rest =>
    have ho := h.orderly
    rw [hq] at ho
    obtain ⟨hi, hw⟩ := ho.waits op List.mem_cons_self
    exact .first op rest hq hi hw.whole ho.lead_head h.timer

lemma front_waits (h : e.Waiting) {c : Content} (hf : e.front = some c) : c.Waits := by
  obtain ⟨op, ho, rfl⟩ := Option.map_eq_some_iff.mp hf
  exact (h.orderly.waits op (List.mem_of_head? ho)).2

lemma told (h : e.Waiting) : e.told = [] := by
  simp only [Engine.told]
  cases hf : e.front with
  | none => rfl
  | some c => exact (h.front_waits hf).told

lemma carried (h : e.Waiting) : e.carried = .empty := by
  simp only [Engine.carried]
  cases hf : e.front with
  | none => rfl
  | some c => exact (h.front_waits hf).carried

end Waiting

/-- What has been launched, if anything: it is for the head of the queue. A difference poll goes on with
what was carried, and messages that were told are resolved. -/
inductive Launched (e' : Engine) (told : List EventSet) (carried : EventSet) : List Deed → Prop
  | nothing (hq : e'.queue.operations = []) (hf : ∀ ev ∈ told, ev.added = []) : Launched e' told carried []
  | head (op : Operation) (rest : List Operation) (c : Content) (hq : e'.queue.operations = op :: rest)
      (hk : op.content.kind = c.kind) (hw : c.Whole)
      (hc : c.kind = .pollDifference → c = .pollDifference carried)
      (hf : ∀ ev ∈ told, ev.added ≠ [] → c = .processEvents ev)
      (ha : c.kind = .pollCompletion → rest = []) : Launched e' told carried [.launch op.id c.task]

structure Starts (e e' : Engine) : Prop where
  settled : e'.Settled
  issued : e.queue.issued ≤ e'.queue.issued
  deeds : ∃ ds, e'.Launched e.told e.carried ds ∧
    deeds e'.effects = deeds e.effects ++ e.told.map .tell ++ ds
  completion : e'.queue.completion? =
    e.queue.completion?.map fun c => (c.1 ++ e.told.flatMap (·.added), c.2)

lemma Launched.of_waiting {told : List EventSet} {events : EventSet} {ds : List Deed}
    (h : e.Launched [] events ds) (ht : ∀ ev ∈ told, ev.added = []) : e.Launched told events ds := by
  cases h with
  | nothing hq => exact .nothing hq ht
  | head op rest c hq hk hw hc _ ha =>
    exact .head op rest c hq hk hw hc (fun ev hm hn => absurd (ht ev hm) hn) ha

lemma starts_run (hq : e.queue.operations = op :: rest) (ho : Orderly [op] rest e.queue.issued)
    (hw : op.content.Whole) (hn : op.content.told = []) (ha : op.content.kind = .pollCompletion → rest = [])
    (hq' : e'.queue = (e.run op rest).queue)
    (ht : e'.timer = if op.content.kind = .collectGroups then some op.id else none)
    (hd : deeds e'.effects = deeds e.effects ++ [.launch op.id op.content.task]) : e.Starts e' where
  settled := by
    refine .busy { op with content := op.content.started, running := true } rest (by rw [hq']; rfl) rfl ?_ ?_
    · rw [hq']
      exact ho.lead_congr rfl (Content.kind_started _)
    · simpa using ht
  issued := by simp [hq', run]
  deeds := by
    refine ⟨[.launch op.id op.content.task], ?_, by simpa [told_cons hq, hn] using hd⟩
    refine .head ⟨op.id, op.content.started, true⟩ rest op.content (by rw [hq']; rfl)
      (Content.kind_started _) hw ?_ ?_ ha
    · intro hk
      rw [carried_cons hq]
      cases hc : op.content <;> simp_all [Content.kind, Content.carried]
    · rw [told_cons hq, hn]
      exact List.forall_mem_nil _
  completion := by
    rw [hq', told_cons hq, hn]
    simp [OperationQueue.completion?_eq, run, hq, List.findSome?_cons]

lemma Starts.of_pass {e'' : Engine} (h : e'.Starts e'') (hw : e'.Waiting)
    (hi : e.queue.issued ≤ e'.queue.issued) (hc : e.carried = .empty)
    (hf : ∀ ev ∈ e.told, ev.added = [])
    (hd : AccountReplica.deeds e'.effects = AccountReplica.deeds e.effects ++ e.told.map .tell)
    (hp : e'.queue.completion? = e.queue.completion?.map fun c => (c.1 ++ e.told.flatMap (·.added), c.2)) :
    e.Starts e'' where
  settled := h.settled
  issued := Nat.le_trans hi h.issued
  deeds := by
    obtain ⟨ds, hl, he⟩ := h.deeds
    rw [hw.told, hw.carried, ← hc] at hl
    rw [hw.told, hd] at he
    exact ⟨ds, hl.of_waiting hf, by simpa using he⟩
  completion := by
    rw [h.completion, hw.told, hp]
    simp [Function.comp_def]

lemma cancelTimer_of_none (h : e.timer = none) : e.cancelTimer = e := by
  simp [cancelTimer, h]

lemma Tells.timer (h : e.Tells e') : e'.timer = e.timer := by
  obtain ⟨xs, rfl, -⟩ := h
  rfl

lemma Tells.queue (h : e.Tells e') : e'.queue = e.queue := by
  obtain ⟨xs, rfl, -⟩ := h
  rfl

lemma starts_processEvents {ev : EventSet} (hq : e.queue.operations = op :: rest)
    (ho : Orderly [op] rest e.queue.issued) (ht : e.timer = none) (hc : op.content = .processEvents ev) :
    e.Starts ((((e.run op rest).emit (.dispatch op.id ev)).announce ev).reportIncoming op.id ev.added) := by
  have hn := tells_announce ((e.run op rest).emit (.dispatch op.id ev)) ev
  generalize ((e.run op rest).emit (.dispatch op.id ev)).announce ev = e₁ at hn
  have hq₁ : e₁.queue.operations = ⟨op.id, .processEvents .empty, true⟩ :: rest := by
    rw [hn.queue]
    simp [emit, run, hc, Content.started]
  have hi₁ : e₁.queue.issued = e.queue.issued := by
    rw [hn.queue]
    rfl
  have hd₁ : deeds e₁.effects = deeds e.effects ++ [.tell ev] := by
    rw [hn.deeds]
    simp [emit, run, Effect.deed?]
  have ho₁ : Orderly [⟨op.id, .processEvents .empty, true⟩] rest e.queue.issued :=
    ho.lead_congr rfl (by rw [hc]; rfl)
  obtain ⟨rest', ha, hr, hp⟩ := OperationQueue.addIncoming_behind hq₁ (by rintro ⟨⟩) ev.added
  rw [hi₁] at hr
  have hq₂ : (e₁.reportIncoming op.id ev.added).queue = ⟨_, _⟩ := hr
  refine ⟨?_, ?_, ?_, ?_⟩
  · refine .busy ⟨op.id, .processEvents .empty, true⟩ rest' (by rw [hq₂]) rfl ?_ ?_
    · rw [hq₂]
      exact ho₁.alike (.refl _) ha
    · exact hn.timer.trans ht
  · simp [hq₂]
  · refine ⟨[.launch op.id (Content.processEvents ev).task], ?_, ?_⟩
    · refine .head ⟨op.id, .processEvents .empty, true⟩ rest' (.processEvents ev) (by rw [hq₂]) rfl trivial
        (by rintro ⟨⟩) ?_ (by rintro ⟨⟩)
      rw [told_cons hq, hc]
      exact List.forall_mem_singleton.mpr fun _ => rfl
    · simp [reportIncoming, emit, hd₁, Effect.deed?, told_cons hq, hc, Content.told, Content.task]
  · rw [OperationQueue.completion?_behind (q := (e₁.reportIncoming op.id ev.added).queue) (by rw [hq₂]) rfl,
      OperationQueue.completion?_behind hq (by rw [hc]; rfl), hp, told_cons hq, hc]
    simp [Content.told]

lemma starts_nothing (hq : e.queue.operations = []) (ht : e.timer = none) : e.Starts e where
  settled := .rest hq ht
  issued := Nat.le_refl _
  deeds := ⟨[], .nothing hq (by simp [told, front, hq]), by simp [told, front, hq]⟩
  completion := by simp [OperationQueue.completion?_eq, hq]

lemma starts_of_start (hq : e.queue.operations = op :: rest) (ho : Orderly [op] rest e.queue.issued)
    (hw : op.content.Whole) (ht : e.timer = none) (hs : e.start op rest = (e', false)) : e.Starts e' := by
  rw [start] at hs
  split at hs
  · next hc =>
    cases hs
    exact starts_run hq ho hw (by rw [hc]; rfl) (by rw [hc]; rintro ⟨⟩) rfl (by rw [hc]; exact ht)
      (by simp [emit, run, Effect.deed?, hc, Content.task])
  · next hc =>
    cases hs
    rw [cancelTimer_of_none (e := e.run op rest) ht]
    exact starts_run hq ho hw (by rw [hc]; rfl) (by rw [hc]; rintro ⟨⟩) rfl (by rw [hc]; rfl)
      (by simp [emit, run, Effect.deed?, hc, Content.task])
  · next hc =>
    cases hs
    exact starts_run hq ho hw (by rw [hc]; rfl) (by rw [hc]; rintro ⟨⟩) rfl (by rw [hc]; exact ht)
      (by simp [emit, run, Effect.deed?, hc, Content.task])
  · next hc =>
    cases hs
    exact starts_run hq ho hw (by rw [hc]; rfl) (by rw [hc]; rintro ⟨⟩) rfl (by rw [hc]; exact ht)
      (by simp [emit, run, Effect.deed?, hc, Content.task])
  · cases hs
  · next hc =>
    cases hs
    exact starts_run hq ho hw (by rw [hc]; rfl) (by rw [hc]; rintro ⟨⟩) rfl (by rw [hc]; exact ht)
      (by simp [emit, run, Effect.deed?, hc, Content.task])
  · next hc =>
    split at hs
    · next hr =>
      cases hs
      exact starts_run hq ho hw (by rw [hc]; rfl) (fun _ => List.isEmpty_iff.mp hr) rfl (by rw [hc]; exact ht)
        (by simp [emit, run, Effect.deed?, hc, Content.task])
    · cases hs
  · next hc =>
    dsimp only at hs
    split at hs
    · cases hs
    · cases hs
      exact starts_processEvents hq ho ht hc

lemma waiting_of_start (hq : e.queue.operations = op :: rest) (ho : Orderly [op] rest e.queue.issued)
    (hw : op.content.Whole) (ht : e.timer = none) (hs : e.start op rest = (e', true)) :
    e'.Waiting ∧ e.queue.issued ≤ e'.queue.issued ∧ op.content.carried = .empty ∧
      (∀ ev ∈ op.content.told, ev.added = []) ∧
      deeds e'.effects = deeds e.effects ++ op.content.told.map .tell ∧
      e'.queue.completion? = e.queue.completion? := by
  rw [start] at hs
  split at hs
  · cases hs
  · cases hs
  · cases hs
  · cases hs
  · next hc =>
    rw [hc] at hw
    cases hw
  · cases hs
  · next ids subscribers hc =>
    split at hs
    · cases hs
    · cases hs
      have h0 : kindCount .pollCompletion rest = 0 := ho.completions_behind (by rw [hc]; rfl)
      refine ⟨⟨?_, ht⟩, Nat.le_succ _, by rw [hc]; rfl,
        by rw [hc]; exact List.forall_mem_nil _, by rw [hc]; simp [drop, Content.told], ?_⟩
      · exact ho.drop_lead.concat (c := .pollCompletion ids subscribers) trivial (fun _ => h0) (by rintro ⟨⟩)
      · have hn := findSome?_completion_eq_none h0
        simp [OperationQueue.completion?_eq, OperationQueue.insertLast, drop, hq, hc, hn, List.findSome?_cons,
          List.findSome?_append]
  · next ev hc =>
    have hn := tells_announce ((e.run op rest).emit (.dispatch op.id ev)) ev
    dsimp only at hs
    generalize ((e.run op rest).emit (.dispatch op.id ev)).announce ev = e₁ at hn hs
    split at hs
    · next ha =>
      cases hs
      have hi : e₁.queue.issued = e.queue.issued := by
        rw [hn.queue]
        rfl
      refine ⟨⟨?_, hn.timer.trans ht⟩, Nat.le_of_eq hi.symm, by rw [hc]; rfl, ?_, ?_, ?_⟩
      · simpa [drop, hi] using ho.drop_lead
      · rw [hc]
        exact List.forall_mem_singleton.mpr (List.isEmpty_iff.mp ha)
      · simp [drop, hn.deeds, emit, run, Effect.deed?, hc, Content.told]
      · rw [OperationQueue.completion?_behind hq (by rw [hc]; rfl), OperationQueue.completion?_eq]
        rfl
    · cases hs

lemma Ready.startable (h : e.Ready) : Startable e.queue.operations := by
  cases h with
  | rest hq => exact hq ▸ ⟨List.forall_mem_nil _, Nat.zero_le 1⟩
  | first op rest hq hi _ ho =>
    rw [hq]
    exact ⟨List.forall_mem_cons.mpr ⟨hi, fun op hm => (ho.waits op hm).1⟩, ho.completions⟩

lemma Ready.starts (h : e.Ready) : e.Starts e.startFirst := by
  have hs := h.startable
  revert h
  refine startFirst_induct (motive := fun e e' => e.Ready → e.Starts e') ?_ ?_ ?_ hs
  · rintro e hq (⟨-, ht⟩ | ⟨op, rest, hq', -⟩)
    · exact starts_nothing hq ht
    · cases hq.symm.trans hq'
  · rintro e op rest e' hq hs (⟨hq', -⟩ | ⟨op', rest', hq', -, hw, ho, ht⟩)
    · cases hq.symm.trans hq'
    · obtain ⟨rfl, rfl⟩ := List.cons.inj (hq.symm.trans hq')
      exact starts_of_start hq ho hw ht hs
  · rintro e op rest e' e'' hq hs ih (⟨hq', -⟩ | ⟨op', rest', hq', -, hw, ho, ht⟩)
    · cases hq.symm.trans hq'
    · obtain ⟨rfl, rfl⟩ := List.cons.inj (hq.symm.trans hq')
      obtain ⟨hw', hi, hc, ha, hd, hp⟩ := waiting_of_start hq ho hw ht hs
      rw [← told_cons hq] at ha hd
      apply (ih hw'.ready).of_pass hw' hi ((carried_cons hq).trans hc) ha hd
      have hn : e.told.flatMap (·.added) = [] := List.flatMap_eq_nil_iff.mpr ha
      simpa [hn] using hp

end Engine

end AccountReplica
