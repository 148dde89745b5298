import AccountReplica.Proofs.Engine.Groups
import AccountReplica.Proofs.Engine.Restructuring
import Mathlib.Data.List.Perm.Subperm

/-! Operations are known by their identifiers alone, which is safe whatever is asked of a queue: no identifier is issued
twice, and a running head stays in front until it is taken out under its own. -/

namespace AccountReplica

namespace OperationQueue

inductive Call
  | insertFirst (c : Content)
  | insertLast (c : Content)
  | replaceWith (c : Content)
  | extendCollect (groups : List UpdateGroup)
  | joinCompletion (s : SubscriberId)
  | addIncoming (incoming : List MessageId)
  | cancelCompletion (s : SubscriberId)
  | startHead
  | popHead (id : OperationId)

def call (q : OperationQueue) : Call → OperationQueue
  | .insertFirst c => (q.insertFirst c).2
  | .insertLast c => (q.insertLast c).2
  | .replaceWith c => (q.replaceWith c).2
  | .extendCollect groups => (q.extendCollect? groups).getD q
  | .joinCompletion s => (q.joinCompletion? s).getD q
  | .addIncoming incoming => q.addIncoming incoming
  | .cancelCompletion s => q.cancelCompletion s
  | .startHead => q.startHead
  | .popHead id => (q.popHead? id).elim q (·.2)

/-- One identifier for each operation that the call makes, first the one that is handed back. -/
def issues (q : OperationQueue) : Call → List OperationId
  | .insertFirst c => [(q.insertFirst c).1]
  | .insertLast c => [(q.insertLast c).1]
  | .replaceWith c => (q.replaceWith c).1 :: if q.pendingCompletions.isEmpty then [] else [⟨q.issued + 2⟩]
  | _ => []

def calls (q : OperationQueue) (cs : List Call) : OperationQueue :=
  cs.foldl call q

def issuesAll (q : OperationQueue) : List Call → List OperationId
  | [] => []
  | c :: cs => q.issues c ++ (q.call c).issuesAll cs

def ids (q : OperationQueue) : List OperationId :=
  q.operations.map (·.id)

/-- What a call can do to a queue. New operations get in behind a running head, and then others may be dropped. -/
inductive Does (q : OperationQueue) : Call → OperationQueue → Prop
  | alters {c : Call} {q' : OperationQueue} (ha : Alike q.operations q'.operations) (hi : q'.issued = q.issued)
      (hn : q.issues c = []) : q.Does c q'
  | starts {op : Operation} {rest : List Operation} (hq : q.operations = op :: rest) :
      q.Does .startHead ⟨{ op with running := true } :: rest, q.issued⟩
  | pops {op : Operation} {q' : OperationQueue} (hq : q.operations = op :: q'.operations) (hi : q'.issued = q.issued) :
      q.Does (.popHead op.id) q'
  | makes {c : Call} {q' : OperationQueue} {made behind : List Operation} (ho : q'.operations = q.runningHead ++ behind)
      (hb : ∀ op ∈ behind, op.running = false) (hm : made ⊆ behind) (hn : made.map (·.id) = q.issues c)
      (hs : q'.operations.Subperm (q.operations ++ made)) (hi : q.issued ≤ q'.issued) : q.Does c q'

variable {q q' : OperationQueue} {c : Call} {op : Operation} {rest : List Operation} {past : List OperationId}

lemma alike_withCompletion (q : OperationQueue)
    (f : List MessageId → List SubscriberId → List MessageId × List SubscriberId) :
    Alike q.operations ((q.withCompletion? f).getD q).operations := by
  rw [withCompletion?]
  cases h : updateCompletion? f q.operations with
  | none => exact .refl _
  | some ops => exact alike_of_updateCompletion? h

lemma does_withCompletion {f : List MessageId → List SubscriberId → List MessageId × List SubscriberId}
    (hn : q.issues c = []) : q.Does c ((q.withCompletion? f).getD q) :=
  .alters (alike_withCompletion q f) (issued_withCompletion q) hn

lemma does_extendCollect (q : OperationQueue) (groups : List UpdateGroup) :
    q.Does (.extendCollect groups) ((q.extendCollect? groups).getD q) := by
  rw [extendCollect?]
  cases h : extendLast? groups q.operations with
  | none => exact .alters (.refl _) rfl rfl
  | some ops => exact .alters (alike_of_extendLast? h) rfl rfl

lemma popHead?_eq_some {id : OperationId} : q.popHead? id = some (op, q') ↔
    op.id = id ∧ q.operations = op :: q'.operations ∧ q'.issued = q.issued := by
  obtain ⟨ops, issued⟩ := q
  obtain ⟨ops', issued'⟩ := q'
  cases ops with
  | nil => simp [popHead?]
  | cons head rest =>
    simp only [popHead?, List.cons.injEq]
    constructor
    · intro h
      split at h
      · next hi =>
        cases h
        exact ⟨hi, ⟨rfl, rfl⟩, rfl⟩
      · cases h
    · rintro ⟨hi, ⟨rfl, rfl⟩, rfl⟩
      rw [if_pos hi]

lemma does_popHead (q : OperationQueue) (id : OperationId) :
    q.Does (.popHead id) ((q.popHead? id).elim q (·.2)) := by
  cases h : q.popHead? id with
  | none => exact .alters (.refl _) rfl rfl
  | some x =>
    obtain ⟨rfl, hq, hi⟩ := popHead?_eq_some.mp h
    exact .pops hq hi

lemma does_startHead (q : OperationQueue) : q.Does .startHead q.startHead := by
  rw [OperationQueue.startHead]
  split
  · next hq => exact .starts hq
  · exact .alters (.refl _) rfl rfl

lemma runningHead_of_running (hq : q.operations = op :: rest) (hr : op.running = true) : q.runningHead = [op] := by
  simp [runningHead, hq, hr, Option.filter]

lemma runningHead_of_idle (hq : q.operations = op :: rest) (hi : op.running = false) : q.runningHead = [] := by
  simp [runningHead, hq, hi, Option.filter]

lemma exists_behind (h : ∀ op ∈ q.operations.tail, op.running = false) :
    ∃ behind, q.operations = q.runningHead ++ behind ∧ (∀ op ∈ behind, op.running = false) ∧
      ∀ c, (q.insertFirst c).2.operations = q.runningHead ++ ⟨q.nextId, c, false⟩ :: behind := by
  cases hq : q.operations with
  | nil =>
    refine ⟨[], ?_⟩
    simp [runningHead, OperationQueue.insertFirst, hq]
  | cons op rest =>
    rw [hq] at h
    cases hr : op.running with
    | true =>
      refine ⟨rest, ?_⟩
      rw [runningHead_of_running hq hr]
      exact ⟨rfl, h, fun c => by simp [OperationQueue.insertFirst, hq, hr]⟩
    | false =>
      refine ⟨op :: rest, ?_⟩
      rw [runningHead_of_idle hq hr]
      exact ⟨rfl, List.forall_mem_cons.mpr ⟨hr, h⟩, fun c => by simp [OperationQueue.insertFirst, hq, hr]⟩

lemma does_insertFirst (h : ∀ op ∈ q.operations.tail, op.running = false) (c : Content) :
    q.Does (.insertFirst c) (q.insertFirst c).2 := by
  obtain ⟨behind, hq, hb, hi⟩ := exists_behind h
  have hs : (q.insertFirst c).2.operations.Perm (q.operations ++ [⟨q.nextId, c, false⟩]) := by
    rw [hi, hq, List.append_assoc]
    exact (List.perm_append_singleton _ _).symm.append_left _
  refine .makes (hi c) (List.forall_mem_cons.mpr ⟨rfl, hb⟩) ?_ rfl hs.subperm (Nat.le_succ _)
  exact List.cons_subset_cons _ (List.nil_subset _)

lemma does_insertLast (h : ∀ op ∈ q.operations.tail, op.running = false) (c : Content) :
    q.Does (.insertLast c) (q.insertLast c).2 := by
  obtain ⟨behind, hq, hb, -⟩ := exists_behind h
  have ho : (q.insertLast c).2.operations = q.runningHead ++ (behind ++ [⟨q.nextId, c, false⟩]) := by
    rw [← List.append_assoc, ← hq]
    rfl
  refine .makes ho (List.forall_mem_append.mpr ⟨hb, List.forall_mem_singleton.mpr rfl⟩) ?_ rfl (.refl _) (Nat.le_succ _)
  exact List.subset_append_right _ _

lemma subperm_kept (ops : List Operation) :
    (ops.filter (·.running) ++ (ops.filter (·.isBatch) ++ ops.filter (·.isTrailing))).Subperm ops := by
  rw [List.subperm_iff_count]
  intro op
  have h (p : Operation → Bool) : (ops.filter p).count op = if p op then ops.count op else 0 := by
    split
    · next hp => exact List.count_filter hp
    · next hp => exact List.count_eq_zero_of_not_mem fun hm => hp (List.mem_filter.mp hm).2
  rw [List.count_append, List.count_append, h, h, h]
  obtain ⟨id, c, running⟩ := op
  cases running <;> cases c <;> simp [Operation.isBatch, Operation.isTrailing, Content.kind]

lemma replaceWith_eq (h : ∀ op ∈ q.operations.tail, op.running = false) (c : Content) : ∃ made,
    (q.replaceWith c).2.operations =
      q.runningHead ++ (q.operations.filter (·.isBatch) ++ (made ++ q.operations.filter (·.isTrailing))) ∧
    made.map (·.id) = q.issues (.replaceWith c) ∧ ∀ op ∈ made, op.running = false := by
  refine ⟨[⟨q.nextId, c, false⟩] ++ q.mergedPoll ⟨q.issued + 2⟩, ?_, ?_, ?_⟩
  · rw [replaceWith_operations, filter_running h, mergedCompletion_eq, mergedPoll]
    split <;> simp [nextId]
  · rw [mergedPoll, issues, replaceWith_id]
    split <;> simp
  · rw [mergedPoll]
    split <;> simp

lemma does_replaceWith (h : ∀ op ∈ q.operations.tail, op.running = false) (c : Content) :
    q.Does (.replaceWith c) (q.replaceWith c).2 := by
  obtain ⟨made, ho, hn, hm⟩ := replaceWith_eq h c
  have hb : ∀ op ∈ q.operations.filter (·.isBatch), op.running = false := by
    intro op hf
    simpa using (Bool.and_eq_true_iff.mp (List.mem_filter.mp hf).2).1
  have ht : ∀ op ∈ q.operations.filter (·.isTrailing), op.running = false := by
    intro op hf
    simpa using (Bool.and_eq_true_iff.mp (List.mem_filter.mp hf).2).1
  have hs : (q.replaceWith c).2.operations.Subperm (q.operations ++ made) := by
    have hk := subperm_kept q.operations
    rw [filter_running h] at hk
    refine List.Subperm.trans (List.Perm.subperm ?_) ((List.subperm_append_right made).mpr hk)
    rw [ho, List.append_assoc, List.append_assoc]
    exact (List.perm_append_comm.append_left _).append_left _
  refine .makes ho ?_ ?_ hn hs (by rw [replaceWith_issued]; omega)
  · simp only [List.forall_mem_append]
    exact ⟨hb, hm, ht⟩
  · exact fun op hf => List.mem_append_right _ (List.mem_append_left _ hf)

lemma does_call (h : ∀ op ∈ q.operations.tail, op.running = false) (c : Call) : q.Does c (q.call c) := by
  cases c with
  | insertFirst c => exact does_insertFirst h c
  | insertLast c => exact does_insertLast h c
  | replaceWith c => exact does_replaceWith h c
  | extendCollect groups => exact does_extendCollect q groups
  | joinCompletion | addIncoming | cancelCompletion => exact does_withCompletion rfl
  | startHead => exact does_startHead q
  | popHead id => exact does_popHead q id

lemma idle_of_alike {ops ops' : List Operation} (h : Alike ops ops') (hi : ∀ op ∈ ops.tail, op.running = false) :
    ∀ op ∈ ops'.tail, op.running = false := by
  intro op' hm
  cases h with
  | nil => cases hm
  | cons _ h =>
    obtain ⟨op, ho, ha⟩ := Alike.exists_of_mem h hm
    exact ha.running.trans (hi op ho)

namespace Does

lemma idle (hd : q.Does c q') (h : ∀ op ∈ q.operations.tail, op.running = false) :
    ∀ op ∈ q'.operations.tail, op.running = false := by
  cases hd with
  | alters ha => exact idle_of_alike ha h
  | starts hq => rwa [hq] at h
  | pops hq =>
    rw [hq] at h
    exact fun op hm => h op (List.mem_of_mem_tail hm)
  | makes ho hb =>
    rw [ho, runningHead]
    cases q.operations.head?.filter (·.running) with
    | none => exact fun op hm => hb op (List.mem_of_mem_tail hm)
    | some => exact hb

lemma ids (hd : q.Does c q') : q'.ids.Subperm (q.ids ++ q.issues c) := by
  cases hd with
  | alters ha _ hn => rw [hn, List.append_nil, OperationQueue.ids, OperationQueue.ids, ha.ids]
  | starts hq =>
    rw [OperationQueue.ids, OperationQueue.ids, hq]
    exact (List.sublist_append_left _ _).subperm
  | pops hq =>
    rw [OperationQueue.ids, OperationQueue.ids, hq]
    exact ((List.sublist_cons_self _ _).trans (List.sublist_append_left _ _)).subperm
  | makes _ _ _ hn hs =>
    obtain ⟨ops, hp, hl⟩ := hs
    rw [← hn, OperationQueue.ids, OperationQueue.ids, ← List.map_append]
    exact ⟨_, hp.map _, hl.map _⟩

lemma issues_subset (hd : q.Does c q') : q.issues c ⊆ q'.ids := by
  cases hd with
  | alters _ _ hn =>
    rw [hn]
    exact List.nil_subset _
  | starts | pops => exact List.nil_subset _
  | makes ho _ hm hn =>
    rw [← hn, OperationQueue.ids, ho]
    exact List.map_subset _ (List.Subset.trans hm (List.subset_append_right _ _))

lemma issued_le (hd : q.Does c q') : q.issued ≤ q'.issued := by
  cases hd with
  | alters _ hi => exact Nat.le_of_eq hi.symm
  | starts => exact Nat.le_refl _
  | pops _ hi => exact Nat.le_of_eq hi.symm
  | makes _ _ _ _ _ hi => exact hi

lemma head (hd : q.Does c q') (hq : q.operations = op :: rest) (hr : op.running = true) (hc : c ≠ .popHead op.id) :
    ∃ op' rest', q'.operations = op' :: rest' ∧ op.Alike op' := by
  cases hd with
  | alters ha =>
    rw [hq] at ha
    cases hq' : q'.operations with
    | nil => rw [hq'] at ha; cases ha
    | cons op' rest' =>
      rw [hq'] at ha
      exact ⟨op', rest', rfl, (List.forall₂_cons.mp ha).1⟩
  | starts hq' =>
    cases hq.symm.trans hq'
    exact ⟨op, rest, by rw [← hr], .refl op⟩
  | pops hq' =>
    cases hq.symm.trans hq'
    exact absurd rfl hc
  | makes ho =>
    rw [runningHead_of_running hq hr] at ho
    exact ⟨op, _, ho, .refl op⟩

end Does

lemma issues_fresh (q : OperationQueue) (c : Call) :
    (q.issues c).Pairwise (fun a b => a.val < b.val) ∧
      ∀ id ∈ q.issues c, q.issued < id.val ∧ id.val ≤ (q.call c).issued := by
  cases c with
  | insertFirst | insertLast => simp [issues, nextId, call, OperationQueue.insertFirst, OperationQueue.insertLast]
  | replaceWith c =>
    have hi := q.replaceWith_issued c
    rw [mergedCompletion_eq] at hi
    simp only [issues, call, replaceWith_id]
    split
    · next hp => simp [hi, hp, nextId]
    · next hp => simp [hi, hp, nextId]
  | _ => simp [issues]

lemma head_calls {cs : List Call} (hq : q.operations = op :: rest) (hr : op.running = true)
    (h : ∀ op ∈ q.operations.tail, op.running = false) (hc : .popHead op.id ∉ cs) :
    ∃ op' rest', (q.calls cs).operations = op' :: rest' ∧ op.Alike op' := by
  induction cs generalizing q op rest with
  | nil => exact ⟨op, rest, hq, .refl op⟩
  | cons c cs ih =>
    rw [List.mem_cons, not_or] at hc
    have hd := does_call h c
    obtain ⟨op', rest', hq', ha⟩ := hd.head hq hr (Ne.symm hc.1)
    obtain ⟨op'', rest'', hq'', ha'⟩ := ih hq' (ha.running.trans hr) (hd.idle h) (by rw [ha.id]; exact hc.2)
    exact ⟨op'', rest'', hq'', ha.trans ha'⟩

structure Keeps (q : OperationQueue) (past : List OperationId) : Prop where
  idle : ∀ op ∈ q.operations.tail, op.running = false
  nodup : q.ids.Nodup
  known : q.ids ⊆ past
  increasing : past.Pairwise fun a b => a.val < b.val
  bounded : ∀ id ∈ past, id.val ≤ q.issued

lemma keeps_empty : empty.Keeps [] :=
  ⟨List.forall_mem_nil _, List.nodup_nil, List.nil_subset _, .nil, List.forall_mem_nil _⟩

namespace Keeps

lemma not_mem_issues (h : q.Keeps past) {id : OperationId} (hm : id ∈ q.ids) : id ∉ q.issues c := by
  intro hi
  have := h.bounded id (h.known hm)
  have := ((q.issues_fresh c).2 id hi).1
  omega

lemma call (h : q.Keeps past) (c : Call) : (q.call c).Keeps (past ++ q.issues c) where
  idle := (does_call h.idle c).idle h.idle
  nodup := by
    have hn : (q.ids ++ q.issues c).Nodup := by
      refine List.nodup_append.mpr ⟨h.nodup, ?_, ?_⟩
      · exact (q.issues_fresh c).1.imp fun hl he => by simp [he] at hl
      · rintro id hm _ hi rfl
        exact h.not_mem_issues hm hi
    obtain ⟨ids, hp, hs⟩ := (does_call h.idle c).ids
    exact hp.nodup_iff.mp (hn.sublist hs)
  known := by
    intro id hm
    rcases List.mem_append.mp ((does_call h.idle c).ids.subset hm) with hm | hm
    · exact List.mem_append_left _ (h.known hm)
    · exact List.mem_append_right _ hm
  increasing := by
    refine List.pairwise_append.mpr ⟨h.increasing, (q.issues_fresh c).1, fun a ha b hb => ?_⟩
    exact Nat.lt_of_le_of_lt (h.bounded a ha) ((q.issues_fresh c).2 b hb).1
  bounded := by
    rw [List.forall_mem_append]
    exact ⟨fun id hm => Nat.le_trans (h.bounded id hm) (does_call h.idle c).issued_le,
      fun id hm => ((q.issues_fresh c).2 id hm).2⟩

lemma calls (h : q.Keeps past) (cs : List Call) : (q.calls cs).Keeps (past ++ q.issuesAll cs) := by
  induction cs generalizing q past with
  | nil => simpa [issuesAll, OperationQueue.calls] using h
  | cons c cs ih =>
    rw [issuesAll, ← List.append_assoc]
    exact ih (h.call c)

lemma mem_issues_iff (h : q.Keeps past) (c : Call) (id : OperationId) :
    id ∈ q.issues c ↔ id ∈ (q.call c).ids ∧ id ∉ q.ids := by
  constructor
  · exact fun hm => ⟨(does_call h.idle c).issues_subset hm, fun hi => h.not_mem_issues hi hm⟩
  · rintro ⟨hm, hn⟩
    exact (List.mem_append.mp ((does_call h.idle c).ids.subset hm)).resolve_left hn

lemma isRunningHead_iff (h : q.Keeps past) (id : OperationId) :
    q.isRunningHead id = true ↔ ∃ op ∈ q.operations, op.id = id ∧ op.running = true := by
  have hi := h.idle
  rw [isRunningHead]
  cases hq : q.operations with
  | nil => simp
  | cons op rest =>
    rw [hq] at hi
    constructor
    · intro ho
      rw [Bool.and_eq_true, decide_eq_true_eq] at ho
      exact ⟨op, List.mem_cons_self, ho⟩
    · rintro ⟨op', hm, rfl, hr⟩
      rcases List.mem_cons.mp hm with rfl | hm
      · simp [hr]
      · cases hr.symm.trans (hi op' hm)

lemma others_of_popHead? (h : q.Keeps past) {id : OperationId} {q' : OperationQueue}
    (hp : q.popHead? id = some (op, q')) : ∀ op' ∈ q'.operations, op'.id ≠ id := by
  obtain ⟨rfl, hq, -⟩ := popHead?_eq_some.mp hp
  have hn := h.nodup
  rw [ids, hq, List.map_cons, List.nodup_cons] at hn
  exact fun op' hm he => hn.1 (List.mem_map.mpr ⟨op', hm, he⟩)

end Keeps

/-- The queue can be trusted, which has issued these identifiers so far. -/
structure Disciplined (q : OperationQueue) (past : List OperationId) : Prop where
  running : ∀ op ∈ q.operations.tail, op.running = false
  nodup : q.ids.Nodup
  known : q.ids ⊆ past
  increasing : past.Pairwise fun a b => a.val < b.val
  issues : ∀ c id, id ∈ q.issues c ↔ id ∈ (q.call c).ids ∧ id ∉ q.ids
  fresh : ∀ c, ∀ id ∈ q.issues c, ∀ id' ∈ past, id'.val < id.val
  stays : ∀ op cs, q.operations.head? = some op → op.running = true → .popHead op.id ∉ cs →
    ∃ op', (q.calls cs).operations.head? = some op' ∧ op'.id = op.id ∧ op'.content.kind = op.content.kind ∧
      op'.running = true
  popped : ∀ id op q', q.popHead? id = some (op, q') ↔
    op.id = id ∧ q.operations = op :: q'.operations ∧ q'.issued = q.issued
  others : ∀ id op q', q.popHead? id = some (op, q') → ∀ op' ∈ q'.operations, op'.id ≠ id
  asked : ∀ id, q.isRunningHead id = true ↔ ∃ op ∈ q.operations, op.id = id ∧ op.running = true

lemma Keeps.disciplined (h : q.Keeps past) : q.Disciplined past where
  running := h.idle
  nodup := h.nodup
  known := h.known
  increasing := h.increasing
  issues := h.mem_issues_iff
  fresh c id hm id' hm' := Nat.lt_of_le_of_lt (h.bounded id' hm') ((q.issues_fresh c).2 id hm).1
  stays op cs hh hr hc := by
    obtain ⟨rest, hq⟩ := List.head?_eq_some_iff.mp hh
    obtain ⟨op', rest', hq', ha⟩ := head_calls hq hr h.idle hc
    exact ⟨op', by rw [hq']; rfl, ha.id, ha.kind, ha.running.trans hr⟩
  popped _ _ _ := popHead?_eq_some
  others _ _ _ := h.others_of_popHead?
  asked := h.isRunningHead_iff

/-- After any calls on a new queue it can be trusted. -/
theorem disciplined_of_calls (cs : List Call) : (empty.calls cs).Disciplined (empty.issuesAll cs) :=
  (keeps_empty.calls cs).disciplined

end OperationQueue

end AccountReplica
