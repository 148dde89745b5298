import AccountReplica.Engine.Dispatch

/-! Starting operations. One that has nothing to wait for is over at once, and the next is started. -/

namespace AccountReplica.Engine

def run (e : Engine) (op : Operation) (rest : List Operation) : Engine :=
  { e with
    queue := { e.queue with operations := { op with content := op.content.started, running := true } :: rest } }

def drop (e : Engine) (rest : List Operation) : Engine :=
  { e with queue := { e.queue with operations := rest } }

def start (e : Engine) (op : Operation) (rest : List Operation) : Engine × Bool :=
  match op.content with
  | .pollDifference events => ((e.run op rest).emit (.spawn op.id (.pollDifference events)), false)
  | .collectGroups _ timeout =>
    let e := (e.run op rest).cancelTimer
    ({ e.emit (.armTimer op.id timeout) with timer := some op.id }, false)
  | .processGroups groups => ((e.run op rest).emit (.spawn op.id (.replayGroups groups)), false)
  | .replayPrecomputed state _ =>
    ((e.run op rest).emit (.spawn op.id (.replayPrecomputed (state.getD .empty))), false)
  | .custom none => (e.drop rest, true)
  | .custom (some work) => ((e.run op rest).emit (.spawn op.id (.custom work)), false)
  | .pollCompletion ids subscribers =>
    if rest.isEmpty then
      (((e.run op rest).emit (.tally .fencesIssued)).emit (.spawn op.id .fence), false)
    else
      let e := e.drop rest
      ({ e with queue := (e.queue.insertLast (.pollCompletion ids subscribers)).2 }, true)
  | .processEvents events =>
    let e := ((e.run op rest).emit (.dispatch op.id events)).announce events
    if events.added.isEmpty then (e.drop rest, true)
    else (e.reportIncoming op.id events.added, false)

/-- One pass: starts the head unless there is none or it runs already. Tells whether to go on. -/
def pass (e : Engine) : Engine × Bool :=
  match e.queue.operations with
  | [] => (e, false)
  | op :: rest => if op.running then (e, false) else e.start op rest

def passes : Nat → Engine → Engine
  | 0, e => e
  | n + 1, e =>
    match e.pass with
    | (e, true) => passes n e
    | (e, false) => e

/-- Enough passes: each one that goes on uses up an event set or a custom operation, or moves the
completion poll to the end. -/
def passBound (q : OperationQueue) : Nat :=
  (q.operations.countP fun op => op.content.kind = .processEvents || op.content.kind = .custom) + 2

def startFirst (e : Engine) : Engine :=
  passes (passBound e.queue) e

end AccountReplica.Engine
