import AccountReplica.Proofs.Engine.Queue

/-! What a restructuring makes of any queue in which at most the head is running: what must be kept stays as it was and
in its order, the completion polls become one, and all else is gone. -/

namespace AccountReplica

namespace OperationQueue

def runningHead (q : OperationQueue) : List Operation :=
  (q.operations.head?.filter (·.running)).toList

def pendingCompletions (q : OperationQueue) : List (List MessageId × List SubscriberId) :=
  q.operations.filterMap Operation.pendingCompletion?

def mergedPoll (q : OperationQueue) (id : OperationId) : List Operation :=
  if q.pendingCompletions.isEmpty then []
  else [⟨id, .pollCompletion (q.pendingCompletions.flatMap (·.1)) (q.pendingCompletions.flatMap (·.2)), false⟩]

/-- The queue was rebuilt around a new operation with content `c`, which is known by `id`. -/
structure Restructured (q : OperationQueue) (c : Content) (id : OperationId) (q' : OperationQueue) : Prop where
  order : ∃ pollId, id.val < pollId.val ∧
    q'.operations = q.runningHead ++ q.operations.filter (·.isBatch) ++ [⟨id, c, false⟩] ++ q.mergedPoll pollId ++
      q.operations.filter (·.isTrailing)
  later : q.issued < id.val
  fresh : ∀ op ∈ q'.operations, op ∈ q.operations ∨ q.issued < op.id.val ∧ op.id.val ≤ q'.issued

variable {q : OperationQueue}

lemma filter_running (h : ∀ op ∈ q.operations.tail, op.running = false) :
    q.operations.filter (·.running) = q.runningHead := by
  rw [runningHead]
  cases hq : q.operations with
  | nil => rfl
  | cons op rest =>
    have hr : rest.filter (·.running) = [] := by
      rw [List.filter_eq_nil_iff]
      intro op' hm
      simp [h op' (by rwa [hq])]
    cases ho : op.running <;> simp [ho, hr, Option.filter]

lemma mergedCompletion_eq (q : OperationQueue) : mergedCompletion q.operations =
    if q.pendingCompletions.isEmpty then none
    else some (q.pendingCompletions.flatMap (·.1), q.pendingCompletions.flatMap (·.2)) := by
  have hm : q.operations.filterMap Operation.pendingCompletion? = q.pendingCompletions := rfl
  rw [mergedCompletion, hm]
  cases q.pendingCompletions <;> rfl

/-- Behind the running head come the pending batches, the new operation, one completion poll for all pending ones, and
the pending event sets and precomputed states. The identifier that is handed back is that of the new operation. -/
theorem restructured_replaceWith (h : ∀ op ∈ q.operations.tail, op.running = false) (c : Content) :
    q.Restructured c (q.replaceWith c).1 (q.replaceWith c).2 := by
  have hi := q.replaceWith_issued c
  have ho : (q.replaceWith c).2.operations = q.runningHead ++ q.operations.filter (·.isBatch) ++
      [⟨q.nextId, c, false⟩] ++ q.mergedPoll ⟨q.issued + 2⟩ ++ q.operations.filter (·.isTrailing) := by
    rw [replaceWith_operations, filter_running h, mergedCompletion_eq, mergedPoll]
    split <;> rfl
  rw [replaceWith_id]
  refine ⟨⟨⟨q.issued + 2⟩, Nat.lt_succ_self _, ho⟩, Nat.lt_succ_self _, ?_⟩
  intro op hm
  rw [mergedCompletion_eq] at hi
  rw [ho, ← filter_running h] at hm
  simp only [List.mem_append, List.mem_filter, List.mem_singleton, mergedPoll] at hm
  rcases hm with (((⟨hm, -⟩ | ⟨hm, -⟩) | rfl) | hm) | ⟨hm, -⟩
  · exact .inl hm
  · exact .inl hm
  · refine .inr ⟨Nat.lt_succ_self _, ?_⟩
    simp only [nextId]
    omega
  · split at hm
    · cases hm
    · next hp =>
      obtain rfl := List.mem_singleton.mp hm
      have hi : (q.replaceWith c).2.issued = q.issued + 2 := by simpa [hp] using hi
      exact .inr ⟨by simp, Nat.le_of_eq hi.symm⟩
  · exact .inl hm

def sampleQueue : OperationQueue where
  operations :=
    [⟨⟨3⟩, .pollCompletion [⟨⟨1⟩, 6⟩] [0], true⟩, ⟨⟨4⟩, .processEvents .empty, false⟩,
      ⟨⟨5⟩, .pollCompletion [⟨⟨1⟩, 7⟩] [2, 1], false⟩, ⟨⟨6⟩, .custom (some 0), false⟩,
      ⟨⟨7⟩, .processGroups [.tooLong], false⟩, ⟨⟨8⟩, .collectGroups [.tooLong] 0, false⟩,
      ⟨⟨9⟩, .replayPrecomputed (some .empty) (some 0), false⟩, ⟨⟨10⟩, .pollDifference .empty, false⟩,
      ⟨⟨11⟩, .pollCompletion [⟨⟨1⟩, 8⟩] [3], false⟩, ⟨⟨12⟩, .processGroups [], false⟩]
  issued := 12

theorem restructured_sampleQueue : (∀ op ∈ sampleQueue.operations.tail, op.running = false) ∧
    sampleQueue.Restructured (.pollDifference .empty) (sampleQueue.replaceWith (.pollDifference .empty)).1
      (sampleQueue.replaceWith (.pollDifference .empty)).2 :=
  ⟨by decide, restructured_replaceWith (by decide) _⟩

end OperationQueue

end AccountReplica
