import AccountReplica.Engine.Command
import AccountReplica.Engine.Dispatch

/-! What the end of a task does to the queue. A report counts only if its operation is the running
head. -/

namespace AccountReplica.Engine

def flush (e : Engine) (events : EventSet) : Engine :=
  if events.isEmpty then e else { e with queue := (e.queue.insertFirst (.processEvents events)).2 }

def awaitMissing (e : Engine) (groups : List UpdateGroup) : Engine :=
  { e with queue := (e.queue.insertLast (.collectGroups groups e.retryDelay)).2 }

/-- Only alerts of a batch that asked for a difference are told. -/
def pollAfterBatch (e : Engine) (alerts : List Alert) : Engine :=
  let e := e.pollAgain
  if alerts.isEmpty then e
  else { e with queue := (e.queue.insertFirst (.processEvents (.ofAlerts alerts))).2 }

def settleBatch (e : Engine) (r : GroupReplay) : Engine :=
  let e := e.emit (.tally .batchesReplayed)
  if r.shouldPoll then e.pollAfterBatch r.events.alerts
  else
    let e := e.flush r.events
    if r.incomplete then e.awaitMissing r.remaining else e

/-- What a timer does to the groups that waited for it: pushed ones are processed, and those behind a
gap are given up for a difference. -/
def timerFired (e : Engine) (id : OperationId) : Engine :=
  if e.timer ≠ some id then e
  else match { e with timer := none }.finish? id with
    | some (.collectGroups groups timeout, e) =>
      if timeout = 0 then { e with queue := (e.queue.insertFirst (.processGroups groups)).2 }
      else e.pollAgain
    | some (_, e) => e
    | none => { e with timer := none }

def reportPollFailure (e : Engine) (error : SyncError) : Engine :=
  let e := e.emit (.recordError error)
  if error.isFatal then e.publish (.fatal error) else e

def differencePolled (e : Engine) : PollOutcome → Engine
  | .stateInitialized _ => e
  | .applied events true => { e with queue := (e.queue.insertFirst (.pollDifference events)).2 }
  | .applied events false =>
    let e := e.flush events
    { e.publish (.caughtUp (e.caughtUp + 1)) with caughtUp := e.caughtUp + 1 }
  | .mismatch events =>
    let e := e.emit (.tally .stateMismatches)
    { e with queue := (e.queue.insertFirst (.pollDifference events)).2 }
  | .tooLong pts events => (e.reportPollFailure (.differenceTooLong pts)).flush events
  | .failed events error =>
    ((e.emit (.tally .replayFailures)).reportPollFailure error).flush events
  | .replayFailed error =>
    ((e.emit (.tally .replayFailures)).emit (.recordError error)).pollAgain

def groupsReplayed (e : Engine) : Except SyncError GroupReplay → Engine
  | .ok r => e.settleBatch r
  | .error error =>
    let e := e.emit (.tally (if error.isMismatch then .stateMismatches else .replayFailures))
    (e.emit (.recordError error)).pollAfterBatch []

def precomputedReplayed (e : Engine) (waiter : Option WaiterId) :
    Except SyncError GroupReplay → Engine
  | .ok r => answer (e.settleBatch r) true
  | .error error => answer ((e.emit (.tally .replayFailures)).emit (.recordError error)) false
where
  answer (e : Engine) (replayed : Bool) : Engine :=
    match waiter with
    | some w => e.emit (.answerPrecomputed w replayed)
    | none => e

/-- A failed fence still shows that the queue had drained. -/
def fenceCompleted (e : Engine) (ids : List MessageId) (subscribers : List SubscriberId)
    (result : Except SyncError Unit) : Engine :=
  let e := match result with
    | .error _ => e.emit (.tally .fenceFailures)
    | .ok () => e
  subscribers.foldl (fun e s => e.emit (.answerCompletion s ids)) e

def eventsProcessed (e : Engine) : Except SyncError (List Notification) → Engine
  | .ok ns => e.publishList .notifications ns
  | .error error => e.emit (.recordError error)

def report (e : Engine) (id : OperationId) : Report → Engine
  | .timerFired => e.timerFired id
  | r =>
    match e.finish? id, r with
    | none, _ => e
    | some (_, e), .differencePolled outcome => e.differencePolled outcome
    | some (_, e), .groupsReplayed result => e.groupsReplayed result
    | some (.replayPrecomputed _ waiter, e), .precomputedReplayed result =>
      e.precomputedReplayed waiter result
    | some (_, e), .customFinished => e.emit (.tally .customOperations)
    | some (.pollCompletion ids subscribers, e), .fenceCompleted result =>
      e.fenceCompleted ids subscribers result
    | some (_, e), .eventsProcessed result => e.eventsProcessed result
    | some (_, e), _ => e

end AccountReplica.Engine
