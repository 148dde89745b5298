import AccountReplica.Proofs.Engine.Settled

/-! What the engine makes of the report on the operation that runs. -/

namespace AccountReplica

namespace EventSet

def toTell (ev : EventSet) : List EventSet :=
  if ev.isEmpty then [] else [ev]

end EventSet

def PollOutcome.told : PollOutcome → List EventSet
  | applied ev false | tooLong _ ev | failed ev _ => ev.toTell
  | stateInitialized _ | applied _ true | mismatch _ | replayFailed _ => []

def PollOutcome.passedOn : PollOutcome → EventSet
  | applied ev true | mismatch ev => ev
  | stateInitialized _ | applied _ false | tooLong .. | failed .. | replayFailed _ => .empty

def GroupReplay.told (g : GroupReplay) : List EventSet :=
  if g.shouldPoll then (EventSet.ofAlerts g.events.alerts).toTell else g.events.toTell

namespace Report

def kind : Report → OperationKind
  | timerFired => .collectGroups
  | differencePolled _ => .pollDifference
  | groupsReplayed _ => .processGroups
  | precomputedReplayed _ => .replayPrecomputed
  | customFinished => .custom
  | fenceCompleted _ => .pollCompletion
  | eventsProcessed _ => .processEvents

def told : Report → List EventSet
  | differencePolled outcome => outcome.told
  | groupsReplayed result | precomputedReplayed result => result.toOption.elim [] GroupReplay.told
  | _ => []

def carried : Report → EventSet
  | differencePolled outcome => outcome.passedOn
  | _ => .empty

end Report

def Content.answers : Content → List Deed
  | pollCompletion ids subscribers => subscribers.map (.answer · ids)
  | _ => []

namespace Engine

/-- Nothing has happened that the queue, the timer or the deeds would show. -/
structure Silent (e e' : Engine) : Prop where
  queue : e'.queue = e.queue
  timer : e'.timer = e.timer
  deeds : deeds e'.effects = deeds e.effects

/-- `e'` is ready for the next start, with these answers given, with this to tell first and with this
carried by the difference poll in front. -/
structure Handles (e e' : Engine) (answers : List Deed) (told : List EventSet) (carried : EventSet) : Prop where
  ready : e'.Ready
  issued : e.queue.issued ≤ e'.queue.issued
  deeds : deeds e'.effects = deeds e.effects ++ answers
  told : e'.told = told
  carried : e'.carried = carried
  completion : e'.queue.completion? = e.queue.completion?

variable {e e' e'' : Engine} {answers : List Deed} {told : List EventSet} {carried : EventSet}

namespace Silent

lemma refl (e : Engine) : e.Silent e :=
  ⟨rfl, rfl, rfl⟩

lemma trans (h : e.Silent e') (h' : e'.Silent e'') : e.Silent e'' :=
  ⟨h'.queue.trans h.queue, h'.timer.trans h.timer, h'.deeds.trans h.deeds⟩

lemma emit {x : Effect} (hx : x.deed? = none) : e.Silent (e.emit x) where
  queue := rfl
  timer := rfl
  deeds := by simp [Engine.emit, hx]

lemma front (h : e.Silent e') : e'.front = e.front := by
  rw [Engine.front, h.queue, Engine.front]

lemma waiting (h : e.Silent e') (hw : e.Waiting) : e'.Waiting :=
  ⟨by rw [h.queue]; exact hw.orderly, h.timer.trans hw.timer⟩

lemma ready (h : e.Silent e') (hr : e.Ready) : e'.Ready := by
  obtain ⟨hq, ht⟩ | ⟨op, rest, hq, hi, hw, ho, ht⟩ := hr
  · exact .rest (by rw [h.queue, hq]) (h.timer.trans ht)
  · exact .first op rest (by rw [h.queue, hq]) hi hw (by rw [h.queue]; exact ho) (h.timer.trans ht)

end Silent

lemma Waiting.handles (h : e.Waiting) : e.Handles e [] [] .empty :=
  ⟨h.ready, Nat.le_refl _, by simp, h.told, h.carried, rfl⟩

namespace Handles

lemma after (h : e'.Handles e'' answers told carried) (hs : e.Silent e') : e.Handles e'' answers told carried where
  ready := h.ready
  issued := by rw [← hs.queue]; exact h.issued
  deeds := by rw [h.deeds, hs.deeds]
  told := h.told
  carried := h.carried
  completion := by rw [h.completion, hs.queue]

lemma silent (h : e.Handles e' answers told carried) (hs : e'.Silent e'') : e.Handles e'' answers told carried where
  ready := hs.ready h.ready
  issued := by rw [hs.queue]; exact h.issued
  deeds := by rw [hs.deeds, h.deeds]
  told := by rw [Engine.told, hs.front, ← h.told, Engine.told]
  carried := by rw [Engine.carried, hs.front, ← h.carried, Engine.carried]
  completion := by rw [hs.queue, h.completion]

lemma trans {more : List Deed} {told' : List EventSet} {carried' : EventSet}
    (h : e.Handles e' answers told carried) (h' : e'.Handles e'' more told' carried') :
    e.Handles e'' (answers ++ more) told' carried' where
  ready := h'.ready
  issued := Nat.le_trans h.issued h'.issued
  deeds := by rw [h'.deeds, h.deeds, List.append_assoc]
  told := h'.told
  carried := h'.carried
  completion := by rw [h'.completion, h.completion]

end Handles

section

variable {lead rest : List Operation}

lemma pollAgain_queue (hq : e.queue.operations = lead ++ rest) (hl : ∀ op ∈ lead, op.running = true)
    (ho : Orderly lead rest e.queue.issued) : e.pollAgain.queue =
      ⟨lead ++ restarted rest e.queue.issued,
        e.queue.issued + 1 + if (mergedCompletion rest).isSome then 1 else 0⟩ := by
  rw [← ho.replaceWith hl, ← hq]
  rfl

lemma issued_pollAgain (hq : e.queue.operations = lead ++ rest) (hl : ∀ op ∈ lead, op.running = true)
    (ho : Orderly lead rest e.queue.issued) : e.queue.issued ≤ e.pollAgain.queue.issued := by
  rw [pollAgain_queue hq hl ho]
  exact Nat.le_add_right_of_le (Nat.le_succ _)

lemma completion?_pollAgain (hq : e.queue.operations = lead ++ rest) (hl : ∀ op ∈ lead, op.running = true)
    (ho : Orderly lead rest e.queue.issued) : e.pollAgain.queue.completion? = e.queue.completion? := by
  rw [OperationQueue.completion?_eq, OperationQueue.completion?_eq, pollAgain_queue hq hl ho, hq,
    List.findSome?_append, List.findSome?_append, ho.findSome?_restarted]

end

namespace Waiting

lemma insertFirst_operations (h : e.Waiting) (c : Content) :
    (e.queue.insertFirst c).2.operations = ⟨e.queue.nextId, c, false⟩ :: e.queue.operations := by
  simp only [OperationQueue.insertFirst]
  cases hq : e.queue.operations with
  | nil => rfl
  | cons op rest =>
    have hi := (h.orderly.waits op (by rw [hq]; exact List.mem_cons_self)).1
    simp [hi]

lemma insertFirst (h : e.Waiting) {c : Content} (hw : c.Whole) (hk : c.kind ≠ .pollCompletion) :
    e.Handles { e with queue := (e.queue.insertFirst c).2 } [] c.told c.carried := by
  have hq : ({ e with queue := (e.queue.insertFirst c).2 } : Engine).queue.operations =
      ⟨e.queue.nextId, c, false⟩ :: e.queue.operations := h.insertFirst_operations c
  exact
    { ready := .first _ _ hq rfl hw (h.orderly.push hk) h.timer
      issued := Nat.le_succ _
      deeds := by simp
      told := (told_cons hq :)
      carried := (carried_cons hq :)
      completion := by
        rw [OperationQueue.completion?_behind hq (Content.completion?_eq_none hk), OperationQueue.completion?_eq] }

lemma flush (h : e.Waiting) (ev : EventSet) : e.Handles (e.flush ev) [] ev.toTell .empty := by
  simp only [Engine.flush, EventSet.toTell]
  split
  · exact h.handles
  · exact h.insertFirst (c := .processEvents ev) trivial (by rintro ⟨⟩)

lemma pollAgain_waiting (h : e.Waiting) : e.pollAgain.Waiting where
  orderly := by
    rw [pollAgain_queue rfl (List.forall_mem_nil _) h.orderly]
    exact h.orderly.restarted
  timer := h.timer

lemma pollAgain (h : e.Waiting) : e.Handles e.pollAgain [] [] .empty where
  ready := h.pollAgain_waiting.ready
  issued := issued_pollAgain rfl (List.forall_mem_nil _) h.orderly
  deeds := by simp [Engine.pollAgain]
  told := h.pollAgain_waiting.told
  carried := h.pollAgain_waiting.carried
  completion := completion?_pollAgain rfl (List.forall_mem_nil _) h.orderly

lemma pollAfterBatch (h : e.Waiting) (alerts : List Alert) :
    e.Handles (e.pollAfterBatch alerts) [] (EventSet.ofAlerts alerts).toTell .empty := by
  have ha : (EventSet.ofAlerts alerts).isEmpty = alerts.isEmpty := by
    simp [EventSet.isEmpty, EventSet.ofAlerts, EventSet.empty]
  unfold Engine.pollAfterBatch EventSet.toTell
  rw [ha]
  dsimp only
  split
  · exact h.pollAgain
  · exact h.pollAgain.trans
      (h.pollAgain_waiting.insertFirst (c := .processEvents (.ofAlerts alerts)) trivial (by rintro ⟨⟩))

lemma insertLast (h : e.Waiting) {c : Content} (hw : c.Waits)
    (hc : c.kind = .pollCompletion → kindCount .pollCompletion e.queue.operations = 0)
    (hp : c.kind = .pollDifference → kindCount .pollDifference e.queue.operations = 0) :
    Waiting { e with queue := (e.queue.insertLast c).2 } :=
  ⟨h.orderly.concat hw hc hp, h.timer⟩

end Waiting

lemma Handles.awaitMissing (h : e.Handles e' answers told carried) (groups : List UpdateGroup) :
    e.Handles (e'.awaitMissing groups) answers told carried := by
  have hc : (e'.awaitMissing groups).queue.completion? = e'.queue.completion? :=
    OperationQueue.completion?_insertLast rfl _
  have key : (e'.awaitMissing groups).Ready ∧ (e'.awaitMissing groups).told = e'.told ∧
      (e'.awaitMissing groups).carried = e'.carried := by
    obtain ⟨hq, ht⟩ | ⟨op, rest, hq, hi, hw, ho, ht⟩ := h.ready
    · have hw : e'.Waiting := ⟨hq ▸ .nil _, ht⟩
      have hw' : (e'.awaitMissing groups).Waiting :=
        hw.insertLast (c := .collectGroups groups e'.retryDelay) trivial (by rintro ⟨⟩) (by rintro ⟨⟩)
      exact ⟨hw'.ready, hw'.told.trans hw.told.symm, hw'.carried.trans hw.carried.symm⟩
    · have hq' : (e'.awaitMissing groups).queue.operations =
          op :: (rest ++ [⟨e'.queue.nextId, .collectGroups groups e'.retryDelay, false⟩]) := by
        simp [Engine.awaitMissing, OperationQueue.insertLast, hq]
      refine ⟨.first op _ hq' hi hw ?_ ht, ?_, ?_⟩
      · exact ho.concat (c := .collectGroups groups e'.retryDelay) trivial (by rintro ⟨⟩) (by rintro ⟨⟩)
      · rw [told_cons hq', told_cons hq]
      · rw [carried_cons hq', carried_cons hq]
  exact
    { ready := key.1
      issued := Nat.le_succ_of_le h.issued
      deeds := h.deeds
      told := key.2.1.trans h.told
      carried := key.2.2.trans h.carried
      completion := hc.trans h.completion }

namespace Waiting

lemma settleBatch (h : e.Waiting) (g : GroupReplay) : e.Handles (e.settleBatch g) [] g.told .empty := by
  have hs : e.Silent (e.emit (.tally .batchesReplayed)) := .emit rfl
  have hw := hs.waiting h
  simp only [Engine.settleBatch, GroupReplay.told]
  split
  · exact (hw.pollAfterBatch _).after hs
  · split
    · exact ((hw.flush _).awaitMissing _).after hs
    · exact (hw.flush _).after hs

lemma reportPollFailure (e : Engine) (error : SyncError) : e.Silent (e.reportPollFailure error) := by
  simp only [Engine.reportPollFailure]
  split
  · exact (Silent.emit (e := e) (x := .recordError error) rfl).trans (.emit rfl)
  · exact .emit rfl

lemma differencePolled (h : e.Waiting) (outcome : PollOutcome) :
    e.Handles (e.differencePolled outcome) [] outcome.told outcome.passedOn := by
  cases outcome with
  | stateInitialized state => exact h.handles
  | applied ev more =>
    cases more with
    | true => exact h.insertFirst (c := .pollDifference ev) trivial (by rintro ⟨⟩)
    | false =>
      have hs : (e.flush ev).Silent (e.differencePolled (.applied ev false)) :=
        ⟨rfl, rfl, by simp [Engine.differencePolled, publish, emit, Effect.deed?]⟩
      exact (h.flush ev).silent hs
  | mismatch ev =>
    have hs : e.Silent (e.emit (.tally .stateMismatches)) := .emit rfl
    exact ((hs.waiting h).insertFirst (c := .pollDifference ev) trivial (by rintro ⟨⟩)).after hs
  | tooLong pts ev =>
    have hs := reportPollFailure e (.differenceTooLong pts)
    exact ((hs.waiting h).flush ev).after hs
  | failed ev error =>
    have hs := (Silent.emit (e := e) (x := .tally .replayFailures) rfl).trans (reportPollFailure _ error)
    exact ((hs.waiting h).flush ev).after hs
  | replayFailed error =>
    have hs := (Silent.emit (e := e) (x := .tally .replayFailures) rfl).trans (.emit (x := .recordError error) rfl)
    exact (hs.waiting h).pollAgain.after hs

lemma groupsReplayed (h : e.Waiting) (result : Except SyncError GroupReplay) :
    e.Handles (e.groupsReplayed result) [] (result.toOption.elim [] GroupReplay.told) .empty := by
  cases result with
  | ok g => exact h.settleBatch g
  | error error =>
    have hs := (Silent.emit (e := e)
      (x := .tally (if error.isMismatch then .stateMismatches else .replayFailures)) rfl).trans
      (.emit (x := .recordError error) rfl)
    exact ((hs.waiting h).pollAfterBatch []).after hs

lemma silent_answer (e : Engine) (waiter : Option WaiterId) (replayed : Bool) :
    e.Silent (Engine.precomputedReplayed.answer waiter e replayed) := by
  cases waiter with
  | none => exact .refl e
  | some w => exact .emit rfl

lemma precomputedReplayed (h : e.Waiting) (waiter : Option WaiterId) (result : Except SyncError GroupReplay) :
    e.Handles (e.precomputedReplayed waiter result) [] (result.toOption.elim [] GroupReplay.told) .empty := by
  cases result with
  | ok g => exact (h.settleBatch g).silent (silent_answer _ waiter true)
  | error error =>
    have hs := (Silent.emit (e := e) (x := .tally .replayFailures) rfl).trans (.emit (x := .recordError error) rfl)
    exact ((hs.waiting h).handles.silent (silent_answer _ waiter false)).after hs

lemma fenceCompleted (h : e.Waiting) (ids : List MessageId) (subscribers : List SubscriberId)
    (result : Except SyncError Unit) :
    e.Handles (e.fenceCompleted ids subscribers result) (subscribers.map (.answer · ids)) [] .empty := by
  have key : ∀ (e : Engine), e.Waiting →
      e.Handles (subscribers.foldl (fun e s => e.emit (.answerCompletion s ids)) e)
        (subscribers.map (.answer · ids)) [] .empty := by
    induction subscribers with
    | nil => exact fun e h => h.handles
    | cons s subscribers ih =>
      intro e h
      have hw : (e.emit (.answerCompletion s ids)).Waiting := ⟨h.orderly, h.timer⟩
      have he : e.Handles (e.emit (.answerCompletion s ids)) [.answer s ids] [] .empty :=
        ⟨hw.ready, Nat.le_refl _, by simp [emit, Effect.deed?], hw.told, hw.carried, rfl⟩
      exact he.trans (ih _ hw)
  cases result with
  | ok _ => exact key e h
  | error error =>
    have hs : e.Silent (e.emit (.tally .fenceFailures)) := .emit rfl
    exact (key _ (hs.waiting h)).after hs

lemma eventsProcessed (h : e.Waiting) (result : Except SyncError (List Notification)) :
    e.Handles (e.eventsProcessed result) [] [] .empty := by
  cases result with
  | ok ns =>
    cases ns with
    | nil => exact h.handles
    | cons n ns => exact h.handles.silent (.emit rfl)
  | error error => exact h.handles.silent (.emit rfl)

end Waiting

def popped (e : Engine) (rest : List Operation) : Engine :=
  { e.drop rest with timer := none }

variable {op : Operation} {rest : List Operation}

lemma finish?_head (hq : e.queue.operations = op :: rest) (hr : op.running = true) (ht : e.timer = none) :
    e.finish? op.id = some (op.content, e.popped rest) := by
  simp [finish?, OperationQueue.isRunningHead, OperationQueue.popHead?, hq, hr, ht, popped, drop]

lemma waiting_popped (ho : Orderly [op] rest e.queue.issued) : (e.popped rest).Waiting :=
  ⟨ho.drop_lead, rfl⟩

inductive Concludes (e : Engine) : Content → Report → Engine → Prop
  | pushed (groups : List UpdateGroup) : Concludes e (.collectGroups groups 0) .timerFired
      { e with queue := (e.queue.insertFirst (.processGroups groups)).2 }
  | stalled (groups : List UpdateGroup) (timeout : Nat) (h : timeout ≠ 0) :
      Concludes e (.collectGroups groups timeout) .timerFired e.pollAgain
  | polled (ev : EventSet) (outcome : PollOutcome) :
      Concludes e (.pollDifference ev) (.differencePolled outcome) (e.differencePolled outcome)
  | replayed (groups : List UpdateGroup) (result : Except SyncError GroupReplay) :
      Concludes e (.processGroups groups) (.groupsReplayed result) (e.groupsReplayed result)
  | precomputed (state : Option PrecomputedState) (waiter : Option WaiterId)
      (result : Except SyncError GroupReplay) : Concludes e (.replayPrecomputed state waiter)
        (.precomputedReplayed result) (e.precomputedReplayed waiter result)
  | finished (work : Option WorkId) :
      Concludes e (.custom work) .customFinished (e.emit (.tally .customOperations))
  | drained (ids : List MessageId) (subscribers : List SubscriberId) (result : Except SyncError Unit) :
      Concludes e (.pollCompletion ids subscribers) (.fenceCompleted result) (e.fenceCompleted ids subscribers result)
  | processed (ev : EventSet) (result : Except SyncError (List Notification)) :
      Concludes e (.processEvents ev) (.eventsProcessed result) (e.eventsProcessed result)

lemma concludes_report {r : Report} (hq : e.queue.operations = op :: rest) (hr : op.running = true)
    (ht : e.timer = if op.content.kind = .collectGroups then some op.id else none)
    (hk : r.kind = op.content.kind) : (e.popped rest).Concludes op.content r (e.report op.id r) := by
  have hf : op.content.kind ≠ .collectGroups → e.finish? op.id = some (op.content, e.popped rest) := fun hn =>
    finish?_head hq hr (by simpa [hn] using ht)
  obtain ⟨id, c, running⟩ := op
  cases r with
  | timerFired =>
    cases c with
    | collectGroups groups timeout =>
      replace ht : e.timer = some id := ht
      have hf' : ({ e with timer := none } : Engine).finish? id =
          some (.collectGroups groups timeout, e.popped rest) :=
        finish?_head (e := { e with timer := none }) hq hr rfl
      simp only [report, timerFired, ht, ne_eq, not_true_eq_false, if_false, hf']
      split
      · next h0 =>
        rw [h0]
        exact .pushed groups
      · next h0 => exact .stalled groups timeout h0
    | _ => cases hk
  | differencePolled outcome =>
    cases c with
    | pollDifference ev =>
      simp only [report, hf (by rintro ⟨⟩)]
      exact .polled ev outcome
    | _ => cases hk
  | groupsReplayed result =>
    cases c with
    | processGroups groups =>
      simp only [report, hf (by rintro ⟨⟩)]
      exact .replayed groups result
    | _ => cases hk
  | precomputedReplayed result =>
    cases c with
    | replayPrecomputed state waiter =>
      simp only [report, hf (by rintro ⟨⟩)]
      exact .precomputed state waiter result
    | _ => cases hk
  | customFinished =>
    cases c with
    | custom work =>
      simp only [report, hf (by rintro ⟨⟩)]
      exact .finished work
    | _ => cases hk
  | fenceCompleted result =>
    cases c with
    | pollCompletion ids subscribers =>
      simp only [report, hf (by rintro ⟨⟩)]
      exact .drained ids subscribers result
    | _ => cases hk
  | eventsProcessed result =>
    cases c with
    | processEvents ev =>
      simp only [report, hf (by rintro ⟨⟩)]
      exact .processed ev result
    | _ => cases hk

lemma Concludes.handles {c : Content} {r : Report} (h : e.Concludes c r e') (hw : e.Waiting) :
    e.Handles e' c.answers r.told r.carried := by
  cases h with
  | pushed groups => exact hw.insertFirst (c := .processGroups groups) trivial (by rintro ⟨⟩)
  | stalled => exact hw.pollAgain
  | polled ev outcome => exact hw.differencePolled outcome
  | replayed groups result => exact hw.groupsReplayed result
  | precomputed state waiter result => exact hw.precomputedReplayed waiter result
  | finished => exact hw.handles.silent (.emit rfl)
  | drained ids subscribers result => exact hw.fenceCompleted ids subscribers result
  | processed ev result => exact hw.eventsProcessed result

lemma handles_report {r : Report} (hq : e.queue.operations = op :: rest) (hr : op.running = true)
    (ho : Orderly [op] rest e.queue.issued)
    (ht : e.timer = if op.content.kind = .collectGroups then some op.id else none)
    (hk : r.kind = op.content.kind) :
    (e.popped rest).Handles (e.report op.id r) op.content.answers r.told r.carried :=
  (concludes_report hq hr ht hk).handles (waiting_popped ho)

end Engine

end AccountReplica
