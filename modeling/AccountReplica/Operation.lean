import AccountReplica.Container
import AccountReplica.Text.Duration
import AccountReplica.EventSet

/-! Operations of the engine: what each does once it is started. -/

namespace AccountReplica

structure OperationId where
  val : Nat
deriving DecidableEq

def OperationId.text (id : OperationId) : String :=
  "op#" ++ toString id.val

abbrev SubscriberId := Nat

abbrev WaiterId := Nat

abbrev WorkId := Nat

/-- A final state that was built outside the engine. -/
structure PrecomputedState where
  groups : List UpdateGroup
  resources : List Resource
deriving DecidableEq

def PrecomputedState.empty : PrecomputedState :=
  ⟨[], []⟩

inductive Content
  | pollDifference (events : EventSet)
  /-- Waits for more groups: for pushed ones as long as none come at once, after a gap for as long as
  the missing ones may take. -/
  | collectGroups (groups : List UpdateGroup) (timeout : Nat)
  | processGroups (groups : List UpdateGroup)
  | custom (work : Option WorkId)
  | pollCompletion (ids : List MessageId) (subscribers : List SubscriberId)
  | processEvents (events : EventSet)
  | replayPrecomputed (state : Option PrecomputedState) (waiter : Option WaiterId)
deriving DecidableEq

inductive OperationKind
  | pollDifference
  | collectGroups
  | processGroups
  | custom
  | pollCompletion
  | processEvents
  | replayPrecomputed
deriving DecidableEq

def OperationKind.name : OperationKind → String
  | pollDifference => "PollDifference"
  | collectGroups => "CollectUpdateGroups"
  | processGroups => "ProcessUpdateGroups"
  | custom => "Custom"
  | pollCompletion => "PollCompletion"
  | processEvents => "ProcessEvents"
  | replayPrecomputed => "ReplayPrecomputedFinalState"

namespace Content

def kind : Content → OperationKind
  | pollDifference _ => .pollDifference
  | collectGroups .. => .collectGroups
  | processGroups _ => .processGroups
  | custom _ => .custom
  | pollCompletion .. => .pollCompletion
  | processEvents _ => .processEvents
  | replayPrecomputed .. => .replayPrecomputed

def summary (c : Content) : String :=
  match c with
  | collectGroups groups timeout =>
    c.kind.name ++ " \x7b groups: " ++ toString groups.length ++ ", timeout: " ++
      durationText timeout ++ " \x7d"
  | processGroups groups => c.kind.name ++ " \x7b groups: " ++ toString groups.length ++ " \x7d"
  | pollCompletion ids subscribers =>
    c.kind.name ++ " \x7b message_ids: " ++ toString ids.length ++ ", subscribers: " ++
      toString subscribers.length ++ " \x7d"
  | _ => c.kind.name

/-- What stays in the queue while the operation runs: all that its task needs moves to the task. -/
def started : Content → Content
  | pollDifference _ => pollDifference .empty
  | processGroups _ => processGroups []
  | custom _ => custom none
  | processEvents _ => processEvents .empty
  | replayPrecomputed _ waiter => replayPrecomputed none waiter
  | c => c

end Content

structure Operation where
  id : OperationId
  content : Content
  running : Bool
deriving DecidableEq

end AccountReplica
