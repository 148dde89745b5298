import AccountReplica.Proofs.Engine.Marks
import AccountReplica.Proofs.Replica.Turns

/-! What callers have asked for, while it waits in the queue: it is started in its order, and a restructuring drops
nothing of it but custom work. -/

namespace AccountReplica

def Content.isWork (c : Content) : Bool :=
  c.kind = .custom || c.kind = .replayPrecomputed

def works (ops : List Operation) : List Operation :=
  ops.filter (·.content.isWork)

/-- Does the operation outlast a restructuring, provided that it is work? -/
def Operation.outlasts (op : Operation) : Bool :=
  op.running || op.content.kind = .replayPrecomputed

lemma works_append (ops ops' : List Operation) : works (ops ++ ops') = works ops ++ works ops' :=
  List.filter_append ..

lemma works_cons (op : Operation) (ops : List Operation) : works (op :: ops) = works [op] ++ works ops :=
  works_append [op] ops

lemma works_idle {op : Operation} (h : op.content.isWork = false) (ops : List Operation) :
    works (op :: ops) = works ops :=
  List.filter_cons_of_neg (by simp [h])

section

variable {ops ops' : List Operation}

lemma works_updateCompletion? {f : List MessageId → List SubscriberId → List MessageId × List SubscriberId}
    (h : OperationQueue.updateCompletion? f ops = some ops') : works ops' = works ops := by
  induction ops generalizing ops' with
  | nil => cases h
  | cons op ops ih =>
    obtain ⟨id, c, running⟩ := op
    cases c with
    | pollCompletion ids subscribers =>
      cases h
      rw [works_idle rfl, works_idle rfl]
    | _ =>
      obtain ⟨ops'', hu, rfl⟩ := Option.map_eq_some_iff.mp h
      rw [works_cons, ih hu, ← works_cons]

lemma works_extendLast? {gs : List UpdateGroup} (h : OperationQueue.extendLast? gs ops = some ops') :
    works ops' = works ops := by
  induction ops generalizing ops' with
  | nil => cases h
  | cons op ops ih =>
    cases ops with
    | nil =>
      obtain ⟨id, c, running⟩ := op
      cases c with
      | collectGroups pending timeout =>
        simp only [OperationQueue.extendLast?] at h
        split at h
        · cases h
          rw [works_idle rfl, works_idle rfl]
        · cases h
      | _ => cases h
    | cons op' ops =>
      obtain ⟨ops'', hu, rfl⟩ := Option.map_eq_some_iff.mp h
      rw [works_cons, ih hu, ← works_cons]

lemma works_withCompletion (q : OperationQueue)
    (f : List MessageId → List SubscriberId → List MessageId × List SubscriberId) :
    works ((q.withCompletion? f).getD q).operations = works q.operations := by
  simp only [OperationQueue.withCompletion?]
  cases hu : OperationQueue.updateCompletion? f q.operations with
  | none => rfl
  | some ops => exact works_updateCompletion? hu

lemma works_insertLast (q : OperationQueue) (c : Content) :
    works (q.insertLast c).2.operations = works q.operations ++ works [⟨q.nextId, c, false⟩] :=
  works_append _ _

lemma works_insertFirst (q : OperationQueue) {c : Content} (hc : c.isWork = false) :
    works (q.insertFirst c).2.operations = works q.operations := by
  have hn (ops : List Operation) : works (⟨q.nextId, c, false⟩ :: ops) = works ops := works_idle hc ops
  simp only [OperationQueue.insertFirst]
  split
  · next head rest hq =>
    rw [hq]
    split
    · rw [works_cons head, works_cons head rest, hn]
    · exact hn _
  · next hq =>
    rw [hq]
    exact hn _

def leftWorks (restarts : Bool) (ops : List Operation) : List Operation :=
  if restarts then (works ops).filter (·.outlasts) else works ops

lemma works_restarted {lead rest : List Operation} {issued : Nat} (h : Orderly lead rest issued) :
    works (restarted rest issued) = leftWorks true rest := by
  -- What is moved behind the poll is idle, so that the work among it is the replays.
  have ht : works (rest.filter (·.isTrailing)) = (works rest).filter (·.outlasts) := by
    simp only [works, List.filter_filter]
    refine List.filter_congr fun op hm => ?_
    have hi := (h.waits op hm).1
    obtain ⟨id, c, running⟩ := op
    obtain rfl : running = false := hi
    cases c <;> rfl
  rw [restarted, works_idle rfl, works_append, ht]
  cases mergedCompletion rest <;> rfl

end

def Command.work? : Command → Option Content
  | addCustom work => some (.custom (some work))
  | replayPrecomputed state waiter => some (.replayPrecomputed (some state) (some waiter))
  | _ => none

namespace Engine

variable {e e' e'' : Engine} {op : Operation} {rest : List Operation}

lemma works_pollAgain (h : e.Settled) : works e.pollAgain.queue.operations = leftWorks true e.queue.operations := by
  obtain ⟨hq, -⟩ | ⟨op, rest, hq, hr, ho, -⟩ := h
  · have hl : e.queue.operations = [] ++ [] := hq
    rw [pollAgain_queue hl (List.forall_mem_nil _) (.nil _), hq]
    rfl
  · have hop : (works [op]).filter (·.outlasts) = works [op] :=
      List.filter_eq_self.mpr fun op' hm => by
        obtain rfl := List.mem_singleton.mp (List.mem_of_mem_filter hm)
        simp [Operation.outlasts, hr]
    have hl : e.queue.operations = [op] ++ rest := hq
    rw [pollAgain_queue hl (List.forall_mem_singleton.mpr hr) ho, hq, works_append, works_restarted ho,
      leftWorks, leftWorks, if_pos rfl, if_pos rfl, works_cons op rest, List.filter_append, hop]

lemma works_command (h : e.Settled) (c : Command) :
    works (e.command c).queue.operations =
      leftWorks c.resets e.queue.operations ++ c.work?.toList.map (⟨e.queue.nextId, ·, false⟩) := by
  have hsilent {e' : Engine} (h : e.Silent e') :
      works e'.queue.operations = works e.queue.operations ++ [] := by
    rw [h.queue, List.append_nil]
  cases c with
  | reset => exact (works_pollAgain h).trans (List.append_nil _).symm
  | addGroups groups =>
    simp only [command, addGroups]
    split
    · exact hsilent (.refl e)
    · simp only [OperationQueue.extendCollect?]
      cases hx : OperationQueue.extendLast? groups e.queue.operations with
      | none => exact works_insertLast e.queue (.collectGroups groups 0)
      | some ops => exact (works_extendLast? hx).trans (List.append_nil _).symm
  | replayPrecomputed state waiter => exact works_insertLast e.queue (.replayPrecomputed (some state) (some waiter))
  | addCustom work => exact works_insertLast e.queue (.custom (some work))
  | pollCompletion s =>
    simp only [command, OperationQueue.joinCompletion?, OperationQueue.withCompletion?]
    cases hx : OperationQueue.updateCompletion? (fun ids subscribers => (ids, subscribers ++ [s]))
      e.queue.operations with
    | none => exact works_insertLast e.queue (.pollCompletion [] [s])
    | some ops => exact (works_updateCompletion? hx).trans (List.append_nil _).symm
  | cancelCompletion s => exact (works_withCompletion e.queue _).trans (List.append_nil _).symm
  | subscribeWebpage media listener awaited => exact hsilent (silent_subscribeWebpage e media listener awaited)
  | subscribeNearby listener awaited => exact hsilent (silent_subscribeNearby e listener awaited)
  | unsubscribe key => exact hsilent (silent_unsubscribe e key)
  | listOperations => exact hsilent (.emit rfl)

lemma works_flush (e : Engine) (ev : EventSet) :
    works (e.flush ev).queue.operations = works e.queue.operations := by
  simp only [flush]
  split
  · rfl
  · exact works_insertFirst e.queue rfl

namespace Waiting

lemma works_pollAgain (h : e.Waiting) : works e.pollAgain.queue.operations = leftWorks true e.queue.operations := by
  rw [h.pollAgain_operations, works_restarted h.orderly]

lemma works_pollAfterBatch (h : e.Waiting) (alerts : List Alert) :
    works (e.pollAfterBatch alerts).queue.operations = leftWorks true e.queue.operations := by
  simp only [Engine.pollAfterBatch]
  split
  · exact h.works_pollAgain
  · exact (works_insertFirst _ rfl).trans h.works_pollAgain

lemma works_settleBatch (h : e.Waiting) (g : GroupReplay) :
    works (e.settleBatch g).queue.operations = leftWorks g.shouldPoll e.queue.operations := by
  have hw := (Silent.emit (e := e) (x := .tally .batchesReplayed) rfl).waiting h
  simp only [Engine.settleBatch]
  split
  · next hp =>
    rw [hp]
    exact hw.works_pollAfterBatch _
  · next hp =>
    rw [Bool.not_eq_true] at hp
    rw [hp]
    have hf := works_flush (e.emit (.tally .batchesReplayed)) g.events
    split
    · exact (works_insertLast _ _).trans ((List.append_nil _).trans hf)
    · exact hf

lemma works_differencePolled (h : e.Waiting) (outcome : PollOutcome) (c : Content) :
    works (e.differencePolled outcome).queue.operations =
      leftWorks ((Report.differencePolled outcome).restarts c) e.queue.operations := by
  have hflush {e' : Engine} (hs : e.Silent e') (ev : EventSet) :
      works (e'.flush ev).queue.operations = works e.queue.operations := by
    rw [works_flush, hs.queue]
  cases outcome with
  | stateInitialized state => rfl
  | applied ev more =>
    cases more with
    | true => exact works_insertFirst e.queue rfl
    | false => exact works_flush e ev
  | mismatch ev => exact works_insertFirst e.queue rfl
  | tooLong pts ev => exact hflush (reportPollFailure e _) ev
  | failed ev error =>
    exact hflush ((Silent.emit (x := .tally .replayFailures) rfl).trans (reportPollFailure _ error)) ev
  | replayFailed error =>
    have hs := (Silent.emit (e := e) (x := .tally .replayFailures) rfl).trans (.emit (x := .recordError error) rfl)
    exact (hs.waiting h).works_pollAgain

lemma works_groupsReplayed (h : e.Waiting) (result : Except SyncError GroupReplay) (c : Content) :
    works (e.groupsReplayed result).queue.operations =
      leftWorks ((Report.groupsReplayed result).restarts c) e.queue.operations := by
  cases result with
  | ok g => exact h.works_settleBatch g
  | error error =>
    have hs := (Silent.emit (e := e)
      (x := .tally (if error.isMismatch then .stateMismatches else .replayFailures)) rfl).trans
      (.emit (x := .recordError error) rfl)
    exact (hs.waiting h).works_pollAfterBatch []

lemma works_precomputedReplayed (h : e.Waiting) (waiter : Option WaiterId) (result : Except SyncError GroupReplay)
    (c : Content) : works (e.precomputedReplayed waiter result).queue.operations =
      leftWorks ((Report.precomputedReplayed result).restarts c) e.queue.operations := by
  cases result with
  | ok g =>
    rw [Engine.precomputedReplayed, (silent_answer _ waiter true).queue]
    exact h.works_settleBatch g
  | error error =>
    rw [Engine.precomputedReplayed, (silent_answer _ waiter false).queue]
    rfl

end Waiting

lemma queue_fenceCompleted (e : Engine) (ids : List MessageId) (subscribers : List SubscriberId)
    (result : Except SyncError Unit) : (e.fenceCompleted ids subscribers result).queue = e.queue := by
  have key : ∀ e : Engine, (subscribers.foldl (fun e s => e.emit (.answerCompletion s ids)) e).queue = e.queue := by
    induction subscribers with
    | nil => exact fun _ => rfl
    | cons s subscribers ih => exact fun e => ih (e.emit (.answerCompletion s ids))
  cases result with
  | ok _ => exact key e
  | error error => exact key (e.emit (.tally .fenceFailures))

lemma queue_eventsProcessed (e : Engine) (result : Except SyncError (List Notification)) :
    (e.eventsProcessed result).queue = e.queue := by
  cases result with
  | ok ns => cases ns <;> rfl
  | error error => rfl

lemma Concludes.works {c : Content} {r : Report} (h : e.Concludes c r e') (hw : e.Waiting) :
    works e'.queue.operations = leftWorks (r.restarts c) e.queue.operations := by
  cases h with
  | pushed groups => exact works_insertFirst _ rfl
  | stalled groups timeout h0 =>
    simp only [Report.restarts, decide_eq_true h0]
    exact hw.works_pollAgain
  | polled ev outcome => exact hw.works_differencePolled outcome _
  | replayed groups result => exact hw.works_groupsReplayed result _
  | precomputed state waiter result => exact hw.works_precomputedReplayed waiter result _
  | finished => rfl
  | drained ids subscribers result =>
    rw [queue_fenceCompleted]
    rfl
  | processed ev result =>
    rw [queue_eventsProcessed]
    rfl

lemma works_report {r : Report} (hs : e.Settled) (hq : e.queue.operations = op :: rest)
    (hk : r.kind = op.content.kind) :
    works (e.report op.id r).queue.operations = leftWorks (r.restarts op.content) rest := by
  obtain ⟨hr, ho, ht⟩ := hs.head hq
  exact (concludes_report hq hr ht hk).works (waiting_popped ho)

end Engine

end AccountReplica
