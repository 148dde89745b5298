import AccountReplica.Proofs.Engine.Groups

/-! What a report and a command do with the groups that wait in the queue. -/

namespace AccountReplica

def GroupReplay.returned (g : GroupReplay) : List UpdateGroup :=
  if g.shouldPoll then [] else g.remaining

def Report.returned : Report → List UpdateGroup
  | groupsReplayed result | precomputedReplayed result => result.toOption.elim [] GroupReplay.returned
  | _ => []

/-- Does the report, on an operation with this content, lead to a new difference poll and drop what is collected? -/
def Report.restarts : Report → Content → Bool
  | timerFired, .collectGroups _ timeout => timeout ≠ 0
  | differencePolled (.replayFailed _), _ => true
  | groupsReplayed (.error _), _ => true
  | groupsReplayed (.ok g), _ | precomputedReplayed (.ok g), _ => g.shouldPoll
  | _, _ => false

def awaiting (groups : List UpdateGroup) (delay issued : Nat) : List Operation :=
  if groups.isEmpty then [] else [⟨⟨issued⟩, .collectGroups groups delay, false⟩]

lemma heldBy_restarted (rest : List Operation) (issued : Nat) : heldBy (restarted rest issued) = [] := by
  have ht : heldBy (rest.filter (·.isTrailing)) = [] := by
    refine heldBy_eq_nil.mpr fun op hm => ?_
    have := (List.mem_filter.mp hm).2
    obtain ⟨id, c, running⟩ := op
    cases c <;> simp_all [Operation.isTrailing, Operation.held, Content.kind]
  simp only [restarted]
  rw [heldBy_cons, heldBy_append, ht, List.append_nil]
  cases mergedCompletion rest <;> rfl

namespace Engine

variable {e e' e'' : Engine} {op : Operation} {rest : List Operation} {restarts : Bool}
  {lead : List (UpdateGroup × Nat)} {returned : List UpdateGroup}

/-- What is queued when a report was handled: something new in front that holds `lead`, then what waited, or what a
restructuring leaves of it. -/
structure Requeues (e e' : Engine) (restarts : Bool) (lead : List (UpdateGroup × Nat)) (returned : List UpdateGroup) :
    Prop where
  queue : ∃ front, (∀ op ∈ front, e.queue.issued < op.id.val) ∧ heldBy front = lead ∧
    e'.queue.operations = front ++
      if restarts then restarted e.queue.operations e.queue.issued
      else e.queue.operations ++ awaiting returned e.retryDelay e'.queue.issued
  issued : e.queue.issued ≤ e'.queue.issued
  awaited : returned ≠ [] → e.queue.issued < e'.queue.issued
  retryDelay : e'.retryDelay = e.retryDelay

namespace Requeues

lemma refl (e : Engine) : e.Requeues e false [] [] where
  queue := ⟨[], List.forall_mem_nil _, rfl, (List.append_nil _).symm⟩
  issued := Nat.le_refl _
  awaited h := absurd rfl h
  retryDelay := rfl

lemma before (h : e.Requeues e' restarts lead returned) (hq : e''.queue = e'.queue)
    (hr : e''.retryDelay = e'.retryDelay) : e.Requeues e'' restarts lead returned where
  queue := by rw [hq]; exact h.queue
  issued := by rw [hq]; exact h.issued
  awaited := by rw [hq]; exact h.awaited
  retryDelay := hr.trans h.retryDelay

lemma after (h : e'.Requeues e'' restarts lead returned) (hq : e'.queue = e.queue) (hr : e'.retryDelay = e.retryDelay) :
    e.Requeues e'' restarts lead returned where
  queue := by rw [← hq, ← hr]; exact h.queue
  issued := by rw [← hq]; exact h.issued
  awaited := by rw [← hq]; exact h.awaited
  retryDelay := h.retryDelay.trans hr

end Requeues

namespace Waiting

lemma requeues_insertFirst (h : e.Waiting) (c : Content) :
    e.Requeues { e with queue := (e.queue.insertFirst c).2 } false (Operation.held ⟨e.queue.nextId, c, false⟩) [] := by
  refine ⟨⟨[⟨e.queue.nextId, c, false⟩], ?_, List.append_nil _, ?_⟩, Nat.le_succ _, fun h => absurd rfl h, rfl⟩
  · exact List.forall_mem_singleton.mpr (Nat.lt_succ_self _)
  · exact (h.insertFirst_operations c).trans (congrArg _ (List.append_nil _).symm)

lemma requeues_flush (h : e.Waiting) (ev : EventSet) : e.Requeues (e.flush ev) false [] [] := by
  simp only [Engine.flush]
  split
  · exact .refl e
  · exact h.requeues_insertFirst (.processEvents ev)

lemma pollAgain_operations (h : e.Waiting) :
    e.pollAgain.queue.operations = restarted e.queue.operations e.queue.issued := by
  rw [pollAgain_queue rfl (List.forall_mem_nil _) h.orderly]
  rfl

lemma requeues_pollAgain (h : e.Waiting) : e.Requeues e.pollAgain true [] [] :=
  ⟨⟨[], List.forall_mem_nil _, rfl, h.pollAgain_operations⟩, h.pollAgain.issued, fun h => absurd rfl h, rfl⟩

lemma requeues_pollAfterBatch (h : e.Waiting) (alerts : List Alert) :
    e.Requeues (e.pollAfterBatch alerts) true [] [] := by
  simp only [Engine.pollAfterBatch]
  split
  · exact h.requeues_pollAgain
  · refine ⟨⟨[⟨e.pollAgain.queue.nextId, .processEvents (.ofAlerts alerts), false⟩], ?_, rfl, ?_⟩, ?_,
      fun h => absurd rfl h, rfl⟩
    · exact List.forall_mem_singleton.mpr (Nat.lt_succ_of_le h.pollAgain.issued)
    · exact (h.pollAgain_waiting.insertFirst_operations _).trans (congrArg _ h.pollAgain_operations)
    · exact Nat.le_succ_of_le h.pollAgain.issued

end Waiting

lemma Requeues.awaitMissing (h : e.Requeues e' false lead []) {groups : List UpdateGroup} (hg : groups ≠ []) :
    e.Requeues (e'.awaitMissing groups) false lead groups := by
  obtain ⟨⟨front, hf, hl, hq⟩, hi, -, hr⟩ := h
  refine ⟨⟨front, hf, hl, ?_⟩, Nat.le_succ_of_le hi, fun _ => Nat.lt_succ_of_le hi, hr⟩
  have hn : groups.isEmpty = false := by simpa using hg
  simp only [Engine.awaitMissing, OperationQueue.insertLast, hq, awaiting, hn, hr]
  simp [OperationQueue.nextId]

namespace Waiting

lemma requeues_settleBatch (h : e.Waiting) (g : GroupReplay) :
    e.Requeues (e.settleBatch g) g.shouldPoll [] g.returned := by
  have hs : e.Silent (e.emit (.tally .batchesReplayed)) := .emit rfl
  have hw := hs.waiting h
  simp only [Engine.settleBatch, GroupReplay.returned]
  split
  · next hp =>
    rw [hp]
    exact (hw.requeues_pollAfterBatch _).after hs.queue rfl
  · next hp =>
    have hf := (hw.requeues_flush g.events).after hs.queue rfl
    rw [Bool.not_eq_true] at hp
    rw [hp]
    split
    · next hi => exact hf.awaitMissing (by simpa [GroupReplay.incomplete] using hi)
    · next hi =>
      have hn : g.remaining = [] := by simpa [GroupReplay.incomplete] using hi
      rw [hn]
      exact hf

lemma requeues_differencePolled (h : e.Waiting) (outcome : PollOutcome) (c : Content) :
    e.Requeues (e.differencePolled outcome) ((Report.differencePolled outcome).restarts c) [] [] := by
  cases outcome with
  | stateInitialized state => exact .refl e
  | applied ev more =>
    cases more with
    | true => exact h.requeues_insertFirst (.pollDifference ev)
    | false => exact (h.requeues_flush ev).before rfl rfl
  | mismatch ev =>
    have hs : e.Silent (e.emit (.tally .stateMismatches)) := .emit rfl
    exact ((hs.waiting h).requeues_insertFirst (.pollDifference ev)).after rfl rfl
  | tooLong pts ev =>
    have hs := reportPollFailure e (.differenceTooLong pts)
    exact ((hs.waiting h).requeues_flush ev).after hs.queue (retryDelay_reportPollFailure e _)
  | failed ev error =>
    have hs := (Silent.emit (e := e) (x := .tally .replayFailures) rfl).trans (reportPollFailure _ error)
    exact ((hs.waiting h).requeues_flush ev).after hs.queue (retryDelay_reportPollFailure _ _)
  | replayFailed error =>
    have hs := (Silent.emit (e := e) (x := .tally .replayFailures) rfl).trans (.emit (x := .recordError error) rfl)
    exact (hs.waiting h).requeues_pollAgain.after rfl rfl

lemma requeues_groupsReplayed (h : e.Waiting) (result : Except SyncError GroupReplay) (c : Content) :
    e.Requeues (e.groupsReplayed result) ((Report.groupsReplayed result).restarts c) []
      (Report.groupsReplayed result).returned := by
  cases result with
  | ok g => exact h.requeues_settleBatch g
  | error error =>
    have hs := (Silent.emit (e := e)
      (x := .tally (if error.isMismatch then .stateMismatches else .replayFailures)) rfl).trans
      (.emit (x := .recordError error) rfl)
    exact ((hs.waiting h).requeues_pollAfterBatch []).after rfl rfl

lemma requeues_precomputedReplayed (h : e.Waiting) (waiter : Option WaiterId) (result : Except SyncError GroupReplay)
    (c : Content) : e.Requeues (e.precomputedReplayed waiter result) ((Report.precomputedReplayed result).restarts c) []
      (Report.precomputedReplayed result).returned := by
  have hr (e : Engine) (b : Bool) : (Engine.precomputedReplayed.answer waiter e b).retryDelay = e.retryDelay := by
    cases waiter <;> rfl
  cases result with
  | ok g => exact (h.requeues_settleBatch g).before (silent_answer _ waiter true).queue (hr _ true)
  | error error =>
    exact (Requeues.refl e).before (silent_answer _ waiter false).queue (hr _ false)

end Waiting

lemma requeues_fenceCompleted (e : Engine) (ids : List MessageId) (subscribers : List SubscriberId)
    (result : Except SyncError Unit) : e.Requeues (e.fenceCompleted ids subscribers result) false [] [] := by
  have key : ∀ e : Engine,
      e.Requeues (subscribers.foldl (fun e s => e.emit (.answerCompletion s ids)) e) false [] [] := by
    induction subscribers with
    | nil => exact .refl
    | cons s subscribers ih => exact fun e => (ih (e.emit (.answerCompletion s ids))).after rfl rfl
  cases result with
  | ok _ => exact key e
  | error error => exact (key (e.emit (.tally .fenceFailures))).after rfl rfl

lemma requeues_eventsProcessed (e : Engine) (result : Except SyncError (List Notification)) :
    e.Requeues (e.eventsProcessed result) false [] [] := by
  cases result with
  | ok ns => cases ns <;> exact (Requeues.refl e).before rfl rfl
  | error error => exact (Requeues.refl e).before rfl rfl

lemma held_of_running (hr : op.running = true) (hk : op.content.kind ≠ .collectGroups) : op.held = [] := by
  obtain ⟨id, c, running⟩ := op
  obtain rfl : running = true := hr
  cases c <;> first | rfl | exact absurd rfl hk

lemma Concludes.requeues {r : Report} (h : e.Concludes op.content r e') (hr : op.running = true) (hw : e.Waiting) :
    e.Requeues e' (r.restarts op.content) (if r.restarts op.content then [] else op.held) r.returned := by
  have hnone (hk : op.content.kind ≠ .collectGroups) : (if r.restarts op.content then [] else op.held) = [] := by
    rw [held_of_running hr hk, ite_self]
  obtain ⟨id, c, running⟩ := op
  cases h with
  | pushed groups => exact hw.requeues_insertFirst (.processGroups groups)
  | stalled groups timeout h0 =>
    simp only [Report.restarts, decide_eq_true h0]
    exact hw.requeues_pollAgain
  | polled ev outcome =>
    rw [hnone (by rintro ⟨⟩)]
    exact hw.requeues_differencePolled outcome _
  | replayed groups result =>
    rw [hnone (by rintro ⟨⟩)]
    exact hw.requeues_groupsReplayed result _
  | precomputed state waiter result =>
    rw [hnone (by rintro ⟨⟩)]
    exact hw.requeues_precomputedReplayed waiter result _
  | finished => exact (Requeues.refl _).before rfl rfl
  | drained ids subscribers result => exact requeues_fenceCompleted _ ids subscribers result
  | processed ev result => exact requeues_eventsProcessed _ result

lemma requeues_report {r : Report} (hs : e.Settled) (hq : e.queue.operations = op :: rest)
    (hk : r.kind = op.content.kind) :
    (e.popped rest).Requeues (e.report op.id r) (r.restarts op.content)
      (if r.restarts op.content then [] else op.held) r.returned := by
  obtain ⟨hr, ho, ht⟩ := hs.head hq
  exact (concludes_report hq hr ht hk).requeues hr (waiting_popped ho)

end Engine

def Command.pushed : Command → List UpdateGroup
  | addGroups groups => groups
  | _ => []

namespace Engine

variable {e e' : Engine} {op : Operation} {rest : List Operation}

lemma retryDelay_unsubscribe (e : Engine) (key : SubscriptionKey) : (e.unsubscribe key).retryDelay = e.retryDelay := by
  cases key <;> simp only [unsubscribe] <;> split <;> rfl

lemma retryDelay_command (e : Engine) (c : Command) : (e.command c).retryDelay = e.retryDelay := by
  have hc (e : Engine) (listener : ListenerId) (key : SubscriptionKey) (awaited : Bool) :
      (e.confirm listener key awaited).retryDelay = e.retryDelay := by
    cases awaited with
    | true => rfl
    | false => exact retryDelay_unsubscribe e key
  cases c with
  | addGroups groups =>
    simp only [command, addGroups]
    split <;> rfl
  | subscribeWebpage media listener awaited => exact hc _ listener _ awaited
  | subscribeNearby listener awaited => exact hc _ listener _ awaited
  | unsubscribe key => exact retryDelay_unsubscribe e key
  | _ => rfl

lemma keeps_command (e : Engine) {c : Command} (hc : c.resets = false) :
    Yields e.queue.operations (e.command c).queue.operations e.queue.issued ∧ ∃ timeout,
      heldBy (e.command c).queue.operations = heldBy e.queue.operations ++ c.pushed.map (·, timeout) := by
  have hsilent {e' : Engine} (h : e.Silent e') : Yields e.queue.operations e'.queue.operations e.queue.issued ∧
      ∃ timeout : Nat, heldBy e'.queue.operations = heldBy e.queue.operations ++ [].map (·, timeout) := by
    rw [h.queue]
    exact ⟨.refl _ _, 0, (List.append_nil _).symm⟩
  have hlast (c : Content) : Yields e.queue.operations (e.queue.insertLast c).2.operations e.queue.issued ∧
      heldBy (e.queue.insertLast c).2.operations =
        heldBy e.queue.operations ++ Operation.held ⟨e.queue.nextId, c, false⟩ := by
    refine ⟨.concat _ (Nat.lt_succ_self _), ?_⟩
    rw [OperationQueue.insertLast, heldBy_append, heldBy_cons, heldBy_nil, List.append_nil]
  cases c with
  | reset => cases hc
  | addGroups groups =>
    simp only [command, addGroups]
    split
    · next hn =>
      obtain rfl := List.isEmpty_iff.mp hn
      exact hsilent (.refl e)
    · simp only [OperationQueue.extendCollect?]
      cases hx : OperationQueue.extendLast? groups e.queue.operations with
      | none => exact ⟨(hlast _).1, 0, (hlast (.collectGroups groups 0)).2⟩
      | some ops =>
        obtain ⟨hg, timeout, hh⟩ := OperationQueue.grows_extendLast? hx
        exact ⟨.of_forall₂ hg _, timeout, hh⟩
  | replayPrecomputed state waiter => exact ⟨(hlast _).1, 0, (hlast (.replayPrecomputed (some state) (some waiter))).2⟩
  | addCustom work => exact ⟨(hlast _).1, 0, (hlast (.custom (some work))).2⟩
  | pollCompletion s =>
    simp only [command, OperationQueue.joinCompletion?, OperationQueue.withCompletion?]
    cases hx : OperationQueue.updateCompletion? (fun ids subscribers => (ids, subscribers ++ [s]))
      e.queue.operations with
    | none => exact ⟨(hlast _).1, 0, (hlast (.pollCompletion [] [s])).2⟩
    | some ops =>
      obtain ⟨hg, hh⟩ := OperationQueue.grows_updateCompletion? hx
      exact ⟨.of_forall₂ hg _, 0, hh.trans (List.append_nil _).symm⟩
  | cancelCompletion s =>
    obtain ⟨hg, hh⟩ := OperationQueue.grows_withCompletion e.queue
      (f := fun ids subscribers => (ids, subscribers.filter (· ≠ s)))
    exact ⟨.of_forall₂ hg _, 0, hh.trans (List.append_nil _).symm⟩
  | subscribeWebpage media listener awaited => exact hsilent (silent_subscribeWebpage e media listener awaited)
  | subscribeNearby listener awaited => exact hsilent (silent_subscribeNearby e listener awaited)
  | unsubscribe key => exact hsilent (silent_unsubscribe e key)
  | listOperations => exact hsilent (.emit rfl)

end Engine

end AccountReplica
