import AccountReplica.OperationQueue
import Mathlib.Data.List.Forall2
import Mathlib.Data.List.Nodup
import Mathlib.Order.Basic

/-! Queues as the engine keeps them: behind the operation in front there are only pending ones that
have nothing to hand on, with at most one completion poll and one difference poll among them. -/

namespace AccountReplica

def Content.Waits : Content → Prop
  | pollDifference events => events = .empty
  | custom work => work.isSome
  | replayPrecomputed state waiter => state.isSome ∧ waiter.isSome
  | collectGroups .. | pollCompletion .. => True
  | processGroups _ | processEvents _ => False

def kindCount (k : OperationKind) (ops : List Operation) : Nat :=
  ops.countP fun op => op.content.kind = k

@[simp] lemma kindCount_nil (k : OperationKind) : kindCount k [] = 0 := rfl

@[simp] lemma kindCount_append (k : OperationKind) (ops ops' : List Operation) :
    kindCount k (ops ++ ops') = kindCount k ops + kindCount k ops' :=
  List.countP_append

@[simp] lemma kindCount_cons (k : OperationKind) (op : Operation) (ops : List Operation) :
    kindCount k (op :: ops) = kindCount k ops + if op.content.kind = k then 1 else 0 := by
  simp [kindCount, List.countP_cons]

/-- The operations of `lead` stand in front of those of `rest`. -/
structure Orderly (lead rest : List Operation) (issued : Nat) : Prop where
  waits : ∀ op ∈ rest, op.running = false ∧ op.content.Waits
  completions : kindCount .pollCompletion (lead ++ rest) ≤ 1
  polls : kindCount .pollDifference rest ≤ 1
  nodup : ((lead ++ rest).map (·.id)).Nodup
  issued : ∀ op ∈ lead ++ rest, op.id.val ≤ issued

structure Operation.Alike (op op' : Operation) : Prop where
  id : op'.id = op.id
  running : op'.running = op.running
  kind : op'.content.kind = op.content.kind
  waits : op.content.Waits → op'.content.Waits

lemma Operation.Alike.refl (op : Operation) : op.Alike op :=
  ⟨rfl, rfl, rfl, fun h => h⟩

lemma Operation.Alike.trans {op op' op'' : Operation} (h : op.Alike op') (h' : op'.Alike op'') :
    op.Alike op'' :=
  ⟨h'.id.trans h.id, h'.running.trans h.running, h'.kind.trans h.kind, fun hw => h'.waits (h.waits hw)⟩

abbrev Alike (ops ops' : List Operation) : Prop :=
  List.Forall₂ Operation.Alike ops ops'

namespace Alike

variable {ops ops' : List Operation}

lemma refl (ops : List Operation) : Alike ops ops :=
  List.forall₂_same.mpr fun op _ => .refl op

lemma ids (h : Alike ops ops') : ops'.map (·.id) = ops.map (·.id) := by
  induction h with
  | nil => rfl
  | cons h _ ih => simp only [List.map_cons, h.id, ih]

lemma kindCount (h : Alike ops ops') (k : OperationKind) : kindCount k ops' = kindCount k ops := by
  induction h with
  | nil => rfl
  | cons h _ ih => simp only [kindCount_cons, h.kind, ih]

lemma exists_of_mem (h : Alike ops ops') {op' : Operation} (hm : op' ∈ ops') :
    ∃ op ∈ ops, op.Alike op' := by
  induction h with
  | nil => cases hm
  | cons h _ ih =>
    rcases List.mem_cons.mp hm with rfl | hm
    · exact ⟨_, List.mem_cons_self, h⟩
    · obtain ⟨op, ho, ha⟩ := ih hm
      exact ⟨op, List.mem_cons_of_mem _ ho, ha⟩

lemma exists_of_mem_left (h : Alike ops ops') {op : Operation} (hm : op ∈ ops) :
    ∃ op' ∈ ops', op.Alike op' := by
  induction h with
  | nil => cases hm
  | cons h _ ih =>
    rcases List.mem_cons.mp hm with rfl | hm
    · exact ⟨_, List.mem_cons_self, h⟩
    · obtain ⟨op', ho, ha⟩ := ih hm
      exact ⟨op', List.mem_cons_of_mem _ ho, ha⟩

end Alike

namespace Orderly

variable {lead rest : List Operation} {issued : Nat}

lemma nil (issued : Nat) : Orderly [] [] issued :=
  ⟨List.forall_mem_nil _, Nat.zero_le 1, Nat.zero_le 1, List.nodup_nil, List.forall_mem_nil _⟩

lemma id_ne_next (h : Orderly lead rest issued) {op : Operation} (hm : op ∈ lead ++ rest) :
    op.id ≠ ⟨issued + 1⟩ := by
  intro he
  have := h.issued op hm
  simp only [he] at this
  omega

lemma alike {lead' rest' : List Operation} (h : Orderly lead rest issued) (hl : Alike lead lead')
    (hr : Alike rest rest') : Orderly lead' rest' issued where
  waits op' hm := by
    obtain ⟨op, ho, ha⟩ := hr.exists_of_mem hm
    obtain ⟨hi, hw⟩ := h.waits op ho
    exact ⟨ha.running.trans hi, ha.waits hw⟩
  completions := by
    simpa only [kindCount_append, hl.kindCount, hr.kindCount] using h.completions
  polls := (hr.kindCount _).trans_le h.polls
  nodup := by simpa only [List.map_append, hl.ids, hr.ids] using h.nodup
  issued op' hm := by
    obtain ⟨op, ho, ha⟩ := Alike.exists_of_mem (List.rel_append hl hr) hm
    exact ha.id ▸ h.issued op ho

lemma concat (h : Orderly lead rest issued) {c : Content} (hw : c.Waits)
    (hc : c.kind = .pollCompletion → kindCount .pollCompletion (lead ++ rest) = 0)
    (hp : c.kind = .pollDifference → kindCount .pollDifference rest = 0) :
    Orderly lead (rest ++ [⟨⟨issued + 1⟩, c, false⟩]) (issued + 1) where
  waits := by
    rw [List.forall_mem_append, List.forall_mem_singleton]
    exact ⟨h.waits, rfl, hw⟩
  completions := by
    have := h.completions
    rw [← List.append_assoc, kindCount_append]
    by_cases hk : c.kind = .pollCompletion
    · simp [hc hk, hk]
    · simpa [hk] using this
  polls := by
    have := h.polls
    by_cases hk : c.kind = .pollDifference
    · simp [hp hk, hk]
    · simpa [hk] using this
  nodup := by
    rw [← List.append_assoc, List.map_append, List.nodup_append]
    refine ⟨h.nodup, List.nodup_singleton _, ?_⟩
    rintro id hid _ hs rfl
    obtain ⟨op, hm, rfl⟩ := List.mem_map.mp hid
    exact h.id_ne_next hm (by simpa using hs)
  issued := by
    rw [← List.append_assoc, List.forall_mem_append, List.forall_mem_singleton]
    exact ⟨fun op hm => Nat.le_succ_of_le (h.issued op hm), Nat.le_refl _⟩

lemma lead_congr {op op' : Operation} (h : Orderly [op] rest issued) (hi : op'.id = op.id)
    (hk : op'.content.kind = op.content.kind) : Orderly [op'] rest issued where
  waits := h.waits
  completions := by simpa only [List.singleton_append, kindCount_cons, hk] using h.completions
  polls := h.polls
  nodup := by simpa only [List.singleton_append, List.map_cons, hi] using h.nodup
  issued := by
    have := h.issued
    simp only [List.singleton_append, List.forall_mem_cons] at this ⊢
    exact ⟨hi ▸ this.1, this.2⟩

lemma push (h : Orderly [] rest issued) {c : Content} (hc : c.kind ≠ .pollCompletion) :
    Orderly [⟨⟨issued + 1⟩, c, false⟩] rest (issued + 1) where
  waits := h.waits
  completions := by simpa [hc] using h.completions
  polls := h.polls
  nodup := by
    rw [List.singleton_append, List.map_cons, List.nodup_cons]
    refine ⟨?_, h.nodup⟩
    rintro hid
    obtain ⟨op, hm, he⟩ := List.mem_map.mp hid
    exact h.id_ne_next hm he
  issued := by
    rw [List.singleton_append, List.forall_mem_cons]
    exact ⟨Nat.le_refl _, fun op hm => Nat.le_succ_of_le (h.issued op hm)⟩

lemma lead_head {op : Operation} (h : Orderly [] (op :: rest) issued) : Orderly [op] rest issued where
  waits op hm := h.waits op (List.mem_cons_of_mem _ hm)
  completions := h.completions
  polls := by
    have := h.polls
    rw [kindCount_cons] at this
    omega
  nodup := h.nodup
  issued := h.issued

lemma drop_lead (h : Orderly lead rest issued) : Orderly [] rest issued where
  waits := h.waits
  completions := by
    have := h.completions
    rw [kindCount_append] at this
    simp only [List.nil_append]
    omega
  polls := h.polls
  nodup := h.nodup.sublist ((List.sublist_append_right lead rest).map _)
  issued op hm := h.issued op (List.mem_append_right lead hm)

lemma completions_behind {op : Operation} (h : Orderly [op] rest issued)
    (hk : op.content.kind = .pollCompletion) : kindCount .pollCompletion rest = 0 := by
  have := h.completions
  rw [List.singleton_append, kindCount_cons, if_pos hk] at this
  omega

lemma perm {rest' : List Operation} (h : Orderly lead rest issued) (hp : rest.Perm rest') :
    Orderly lead rest' issued where
  waits op hm := h.waits op (hp.mem_iff.mpr hm)
  completions := ((hp.append_left lead).countP_eq _).symm.trans_le h.completions
  polls := (hp.countP_eq _).symm.trans_le h.polls
  nodup := ((hp.append_left lead).map _).nodup_iff.mp h.nodup
  issued op hm := h.issued op ((hp.append_left lead).mem_iff.mpr hm)

lemma sublist {rest' : List Operation} (h : Orderly lead rest issued) (hs : rest'.Sublist rest) :
    Orderly lead rest' issued where
  waits op hm := h.waits op (hs.subset hm)
  completions := Nat.le_trans (hs.append_left lead).countP_le h.completions
  polls := Nat.le_trans hs.countP_le h.polls
  nodup := h.nodup.sublist ((hs.append_left lead).map _)
  issued op hm := h.issued op ((hs.append_left lead).subset hm)

lemma cons (h : Orderly lead rest issued) {c : Content} (hw : c.Waits)
    (hc : c.kind = .pollCompletion → kindCount .pollCompletion (lead ++ rest) = 0)
    (hp : c.kind = .pollDifference → kindCount .pollDifference rest = 0) :
    Orderly lead (⟨⟨issued + 1⟩, c, false⟩ :: rest) (issued + 1) :=
  (h.concat hw hc hp).perm (List.perm_append_singleton _ _)

end Orderly

def Content.completion? : Content → Option (List MessageId × List SubscriberId)
  | pollCompletion ids subscribers => some (ids, subscribers)
  | _ => none

def Operation.pendingCompletion? (op : Operation) : Option (List MessageId × List SubscriberId) :=
  if op.running then none else op.content.completion?

def Operation.isTrailing (op : Operation) : Bool :=
  !op.running && (op.content.kind = .processEvents || op.content.kind = .replayPrecomputed)

def Operation.isBatch (op : Operation) : Bool :=
  !op.running && op.content.kind = .processGroups

def mergedCompletion (ops : List Operation) : Option (List MessageId × List SubscriberId) :=
  match ops.filterMap Operation.pendingCompletion? with
  | [] => none
  | cs => some (cs.flatMap (·.1), cs.flatMap (·.2))

namespace OperationQueue

lemma completion?_eq (q : OperationQueue) :
    q.completion? = q.operations.findSome? (·.content.completion?) := by
  simp only [completion?]
  congr 1

lemma foldr_add (ops : List Operation) :
    ops.foldr Restructuring.add .none =
      ⟨ops.filter (·.running), ops.filter (·.isBatch), mergedCompletion ops, ops.filter (·.isTrailing)⟩ := by
  induction ops with
  | nil => rfl
  | cons op ops ih =>
    obtain ⟨id, c, running⟩ := op
    rw [List.foldr_cons, ih]
    cases running with
    | true => simp [Restructuring.add, mergedCompletion, Operation.isBatch, Operation.isTrailing,
        Operation.pendingCompletion?]
    | false =>
      cases c with
      | pollCompletion ids subscribers =>
        simp only [Restructuring.add, mergedCompletion, Operation.isBatch, Operation.isTrailing,
          Operation.pendingCompletion?, Content.completion?, Content.kind]
        cases h : List.filterMap Operation.pendingCompletion? ops <;>
          simp [h, Operation.pendingCompletion?, Content.completion?]
      | _ => simp [Restructuring.add, mergedCompletion, Operation.isBatch, Operation.isTrailing,
          Operation.pendingCompletion?, Content.completion?, Content.kind]

lemma replaceWith_operations (q : OperationQueue) (c : Content) :
    (q.replaceWith c).2.operations =
      q.operations.filter (·.running) ++ q.operations.filter (·.isBatch) ++ [⟨⟨q.issued + 1⟩, c, false⟩] ++
        ((mergedCompletion q.operations).elim [] fun m => [⟨⟨q.issued + 2⟩, .pollCompletion m.1 m.2, false⟩]) ++
        q.operations.filter (·.isTrailing) := by
  simp only [replaceWith]
  rw [foldr_add]
  cases mergedCompletion q.operations <;> simp [insertLast, nextId]

lemma replaceWith_id (q : OperationQueue) (c : Content) : (q.replaceWith c).1 = q.nextId :=
  rfl

lemma replaceWith_issued (q : OperationQueue) (c : Content) :
    (q.replaceWith c).2.issued = q.issued + 1 + if (mergedCompletion q.operations).isSome then 1 else 0 := by
  simp only [replaceWith]
  rw [foldr_add]
  cases mergedCompletion q.operations <;> simp [insertLast]

variable {f : List MessageId → List SubscriberId → List MessageId × List SubscriberId}
  {ops ops' : List Operation}

lemma updateCompletion?_eq_none : updateCompletion? f ops = none ↔ kindCount .pollCompletion ops = 0 := by
  induction ops with
  | nil => simp [updateCompletion?]
  | cons op ops ih =>
    obtain ⟨id, c, running⟩ := op
    cases c <;> simp [updateCompletion?, Content.kind, ih]

lemma alike_of_updateCompletion? (h : updateCompletion? f ops = some ops') : Alike ops ops' := by
  induction ops generalizing ops' with
  | nil => cases h
  | cons op ops ih =>
    obtain ⟨id, c, running⟩ := op
    cases c with
    | pollCompletion ids subscribers =>
      cases h
      exact .cons ⟨rfl, rfl, rfl, fun _ => trivial⟩ (Alike.refl ops)
    | _ =>
      obtain ⟨ops'', hu, rfl⟩ := Option.map_eq_some_iff.mp h
      exact .cons (.refl _) (ih hu)

lemma findSome?_updateCompletion? (h : updateCompletion? f ops = some ops') :
    ops'.findSome? (·.content.completion?) =
      (ops.findSome? (·.content.completion?)).map fun c => f c.1 c.2 := by
  induction ops generalizing ops' with
  | nil => cases h
  | cons op ops ih =>
    obtain ⟨id, c, running⟩ := op
    cases c with
    | pollCompletion ids subscribers => cases h; rfl
    | _ =>
      obtain ⟨ops'', hu, rfl⟩ := Option.map_eq_some_iff.mp h
      simpa only [List.findSome?_cons, Content.completion?] using ih hu

lemma alike_of_extendLast? {gs : List UpdateGroup} (h : extendLast? gs ops = some ops') :
    Alike ops ops' := by
  induction ops generalizing ops' with
  | nil => cases h
  | cons op ops ih =>
    cases ops with
    | nil =>
      obtain ⟨id, c, running⟩ := op
      cases c with
      | collectGroups pending timeout =>
        simp only [extendLast?] at h
        split at h
        · cases h
          exact .cons ⟨rfl, rfl, rfl, fun _ => trivial⟩ .nil
        · cases h
      | _ => cases h
    | cons op' ops =>
      obtain ⟨ops'', hu, rfl⟩ := Option.map_eq_some_iff.mp h
      exact .cons (.refl op) (ih hu)

lemma findSome?_extendLast? {gs : List UpdateGroup} (h : extendLast? gs ops = some ops') :
    ops'.findSome? (·.content.completion?) = ops.findSome? (·.content.completion?) := by
  induction ops generalizing ops' with
  | nil => cases h
  | cons op ops ih =>
    cases ops with
    | nil =>
      obtain ⟨id, c, running⟩ := op
      cases c with
      | collectGroups pending timeout =>
        simp only [extendLast?] at h
        split at h
        · cases h
          rfl
        · cases h
      | _ => cases h
    | cons op' ops =>
      obtain ⟨ops'', hu, rfl⟩ := Option.map_eq_some_iff.mp h
      rw [List.findSome?_cons, List.findSome?_cons, ih hu]

end OperationQueue

/-- What a restructuring around a new difference poll puts behind the running head. -/
def restarted (rest : List Operation) (issued : Nat) : List Operation :=
  ⟨⟨issued + 1⟩, .pollDifference .empty, false⟩ ::
    ((mergedCompletion rest).elim [] (fun m => [⟨⟨issued + 2⟩, .pollCompletion m.1 m.2, false⟩]) ++
      rest.filter (·.isTrailing))

lemma mergedCompletion_running {lead : List Operation} (hl : ∀ op ∈ lead, op.running = true)
    (rest : List Operation) : mergedCompletion (lead ++ rest) = mergedCompletion rest := by
  have h : lead.filterMap Operation.pendingCompletion? = [] := by
    simp only [List.filterMap_eq_nil_iff]
    intro op hm
    simp [Operation.pendingCompletion?, hl op hm]
  simp only [mergedCompletion]
  rw [List.filterMap_append, h, List.nil_append]

lemma Content.completion?_eq_none {c : Content} (h : c.kind ≠ .pollCompletion) : c.completion? = none := by
  cases c <;> first | rfl | exact absurd rfl h

lemma findSome?_completion_eq_none {ops : List Operation} (h : kindCount .pollCompletion ops = 0) :
    ops.findSome? (·.content.completion?) = none := by
  simp only [kindCount, List.countP_eq_zero] at h
  exact List.findSome?_eq_none_iff.mpr fun op hm => Content.completion?_eq_none (by simpa using h op hm)

lemma kindCount_eq_zero {ops : List Operation} (h : ops.findSome? (·.content.completion?) = none) :
    kindCount .pollCompletion ops = 0 := by
  rw [kindCount, List.countP_eq_zero]
  intro op hm hk
  have := List.findSome?_eq_none_iff.mp h op hm
  obtain ⟨id, c, running⟩ := op
  cases c <;> simp_all [Content.kind, Content.completion?]

namespace OperationQueue

variable {q : OperationQueue} {op : Operation} {rest : List Operation}

lemma completion?_behind (hq : q.operations = op :: rest) (hn : op.content.completion? = none) :
    q.completion? = rest.findSome? (·.content.completion?) := by
  rw [completion?_eq, hq, List.findSome?_cons, hn]

lemma completion?_insertLast {c : Content} (hn : c.completion? = none) (q : OperationQueue) :
    (q.insertLast c).2.completion? = q.completion? := by
  simp [completion?_eq, insertLast, List.findSome?_append, hn]

lemma addIncoming_behind (hq : q.operations = op :: rest) (hk : op.content.kind ≠ .pollCompletion)
    (incoming : List MessageId) :
    ∃ rest', Alike rest rest' ∧ q.addIncoming incoming = ⟨op :: rest', q.issued⟩ ∧
      rest'.findSome? (·.content.completion?) =
        (rest.findSome? (·.content.completion?)).map fun c => (c.1 ++ incoming, c.2) := by
  obtain ⟨ops, issued⟩ := q
  obtain rfl : ops = op :: rest := hq
  have hu : ∀ f, updateCompletion? f (op :: rest) = (updateCompletion? f rest).map (op :: ·) := by
    intro f
    obtain ⟨id, c, running⟩ := op
    cases c <;> first | rfl | exact absurd rfl hk
  simp only [addIncoming, withCompletion?, hu]
  cases hr : updateCompletion? (fun ids subscribers => (ids ++ incoming, subscribers)) rest with
  | none =>
    refine ⟨rest, .refl rest, rfl, ?_⟩
    rw [findSome?_completion_eq_none (updateCompletion?_eq_none.mp hr)]
    rfl
  | some rest' => exact ⟨rest', alike_of_updateCompletion? hr, rfl, findSome?_updateCompletion? hr⟩

end OperationQueue

namespace Orderly

variable {lead rest : List Operation} {issued : Nat}

lemma mergedCompletion_eq (h : Orderly lead rest issued) :
    mergedCompletion rest = rest.findSome? (·.content.completion?) := by
  have hw := fun op hm => (h.waits op hm).1
  have hc := h.completions
  rw [kindCount_append] at hc
  replace hc : kindCount .pollCompletion rest ≤ 1 := by omega
  clear h
  induction rest with
  | nil => rfl
  | cons op rest ih =>
    have hi := hw op List.mem_cons_self
    obtain ⟨id, c, running⟩ := op
    rw [kindCount_cons] at hc
    cases c with
    | pollCompletion ids subscribers =>
      simp only [Content.kind, if_true] at hc
      have hn : rest.filterMap Operation.pendingCompletion? = [] := by
        have h0 : kindCount .pollCompletion rest = 0 := by omega
        simp only [kindCount, List.countP_eq_zero] at h0
        simp only [List.filterMap_eq_nil_iff, Operation.pendingCompletion?]
        intro op hm
        rw [Content.completion?_eq_none (by simpa using h0 op hm), ite_self]
      obtain rfl : running = false := hi
      simp [mergedCompletion, Operation.pendingCompletion?, Content.completion?, hn]
    | _ =>
      have hr := ih (fun op hm => hw op (List.mem_cons_of_mem _ hm)) (by simpa [Content.kind] using hc)
      simpa [mergedCompletion, Operation.pendingCompletion?, Content.completion?] using hr

lemma kind_of_isTrailing (h : Orderly lead rest issued) {op : Operation}
    (hm : op ∈ rest.filter (·.isTrailing)) : op ∈ rest ∧ op.content.kind = .replayPrecomputed := by
  obtain ⟨hm, ht⟩ := List.mem_filter.mp hm
  obtain ⟨hi, hw⟩ := h.waits op hm
  refine ⟨hm, ?_⟩
  obtain ⟨id, c, running⟩ := op
  cases c <;> simp_all [Operation.isTrailing, Content.Waits, Content.kind]

lemma kindCount_trailing (h : Orderly lead rest issued) {k : OperationKind}
    (hk : k ≠ .replayPrecomputed) : kindCount k (rest.filter (·.isTrailing)) = 0 := by
  simp only [kindCount, List.countP_eq_zero, decide_eq_true_eq]
  intro op hm he
  exact hk (he ▸ (h.kind_of_isTrailing hm).2)

lemma restarted (h : Orderly lead rest issued) :
    Orderly lead (restarted rest issued)
      (issued + 1 + if (mergedCompletion rest).isSome then 1 else 0) := by
  have ht := h.sublist (List.filter_sublist (p := (·.isTrailing)))
  have hp := ht.cons (c := .pollDifference .empty) rfl (by rintro ⟨⟩)
    fun _ => h.kindCount_trailing (by decide)
  simp only [AccountReplica.restarted]
  cases hm : mergedCompletion rest with
  | none => exact hp
  | some m =>
    have hc : kindCount .pollCompletion rest ≠ 0 := by
      intro h0
      rw [h.mergedCompletion_eq, findSome?_completion_eq_none h0] at hm
      cases hm
    have hlead : kindCount .pollCompletion lead = 0 := by
      have := h.completions
      rw [kindCount_append] at this
      omega
    refine (hp.cons (c := .pollCompletion m.1 m.2) trivial (fun _ => ?_) (by rintro ⟨⟩)).perm (.swap _ _ _)
    simp [hlead, h.kindCount_trailing (k := .pollCompletion) (by decide), Content.kind]

lemma findSome?_restarted (h : Orderly lead rest issued) :
    (AccountReplica.restarted rest issued).findSome? (·.content.completion?) =
      rest.findSome? (·.content.completion?) := by
  have ht := findSome?_completion_eq_none (h.kindCount_trailing (k := .pollCompletion) (by decide))
  rw [← h.mergedCompletion_eq]
  simp only [AccountReplica.restarted]
  cases mergedCompletion rest with
  | none => simpa [Content.completion?] using ht
  | some m => simp [Content.completion?]

lemma replaceWith (h : Orderly lead rest issued) (hl : ∀ op ∈ lead, op.running = true) :
    (OperationQueue.replaceWith ⟨lead ++ rest, issued⟩ (.pollDifference .empty)).2 =
      ⟨lead ++ AccountReplica.restarted rest issued,
        issued + 1 + if (mergedCompletion rest).isSome then 1 else 0⟩ := by
  have hb : (lead ++ rest).filter (·.isBatch) = [] := by
    simp only [List.filter_eq_nil_iff, List.forall_mem_append]
    refine ⟨fun op hm => by simp [Operation.isBatch, hl op hm], fun op hm => ?_⟩
    obtain ⟨-, hw⟩ := h.waits op hm
    obtain ⟨id, c, running⟩ := op
    cases c <;> simp_all [Operation.isBatch, Content.Waits, Content.kind]
  have hr : (lead ++ rest).filter (·.running) = lead := by
    rw [List.filter_append, List.filter_eq_self.mpr hl, List.append_right_eq_self, List.filter_eq_nil_iff]
    intro op hm
    simp [(h.waits op hm).1]
  have ht : (lead ++ rest).filter (·.isTrailing) = rest.filter (·.isTrailing) := by
    rw [List.filter_append, List.append_left_eq_self, List.filter_eq_nil_iff]
    intro op hm
    simp [Operation.isTrailing, hl op hm]
  rw [OperationQueue.mk.injEq, OperationQueue.replaceWith_operations, OperationQueue.replaceWith_issued]
  simp only [mergedCompletion_running hl, hb, hr, ht, AccountReplica.restarted]
  simp

end Orderly

end AccountReplica
