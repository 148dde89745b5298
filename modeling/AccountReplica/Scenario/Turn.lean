import AccountReplica.Engine.Basic

/-! Tasks under way beside the engine: what they do next, and what they wait for. Times are in
milliseconds. -/

namespace AccountReplica

/-- How custom work ends. An empty text of a panic stands for one without a text. -/
inductive WorkEnd
  | ok (n : Int64)
  | err (text : String)
  | panic (text : String)
deriving DecidableEq

inductive WorkPlan
  | ends (how : WorkEnd) (after : Nat)
  | gated (opened : Option WorkEnd)
deriving DecidableEq

structure Work where
  id : WorkId
  plan : WorkPlan

inductive Answer
  | state (events : EventSet) (answer : Except SyncError SequenceState)
  | difference (events : EventSet) (origin : SequenceState) (answer : Except SyncError Difference)
  | fence (answer : Except SyncError Unit)

inductive Stage
  | begin (task : Task)
  | receive (latency : Nat) (answer : Answer)
  | take (answer : Answer)
  | work (id : WorkId)
  | endWork (id : WorkId) (how : WorkEnd)
  /-- The task that began the work notes how it has ended. -/
  | noteEnd (how : WorkEnd)
  | timer (delay : Nat)

structure Flight where
  op : OperationId
  stage : Stage

inductive Hold
  | permit
  | time (due : Nat)
  | gate (work : WorkId)
deriving DecidableEq

structure Waiting where
  flight : Flight
  hold : Hold

inductive Resident
  | engine
  | forwarder
deriving DecidableEq

inductive Turn
  | resident (r : Resident)
  | flight (f : Flight)

def Task.usesStorage : Task → Bool
  | custom _ | fence => false
  | pollDifference _ | replayGroups _ | replayPrecomputed _ | resolveNotifications _ => true

/-- Nothing is stored of an error, nor of a difference that is too long. -/
def Answer.usesStorage : Answer → Bool
  | state _ (.ok _) => true
  | difference _ _ (.ok (.tooLong _)) => false
  | difference _ _ (.ok _) => true
  | _ => false

def Stage.usesStorage : Stage → Bool
  | begin task => task.usesStorage
  | take answer => answer.usesStorage
  | _ => false

namespace Flight

def isTimer (f : Flight) : Bool :=
  match f.stage with
  | .timer _ => true
  | _ => false

end Flight

namespace Turn

def isOf (r : Resident) : Turn → Bool
  | resident s => s = r
  | flight _ => false

def flight? : Turn → Option Flight
  | flight f => some f
  | _ => none

end Turn

def Waiting.permitted : Nat → List Waiting → List Flight × List Waiting
  | _, [] => ([], [])
  | 0, ws => ([], ws)
  | n + 1, x :: ws =>
    if x.hold = .permit then
      let (fs, rest) := permitted n ws
      (x.flight :: fs, rest)
    else
      let (fs, rest) := permitted (n + 1) ws
      (fs, x :: rest)

end AccountReplica
