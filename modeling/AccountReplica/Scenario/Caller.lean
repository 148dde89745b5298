import AccountReplica.Engine.Basic

/-! Callers: what they wait for, and what they are told. -/

namespace AccountReplica

inductive Outcome
  | ids (ids : List MessageId)
  | error (error : SyncError)
  | ok (n : Int64)
  | err (text : String)
  | flag (b : Bool)
  | webpage (page : Webpage)
  | nearby (peers : List NearbyPeer)
  | closed
  | waiting
  | stopped
  | done
deriving DecidableEq

inductive Promise
  | completion (subscriber : SubscriberId)
  | work (work : WorkId)
  | precomputed (waiter : WaiterId)
  | subscription (listener : ListenerId) (key : Option SubscriptionKey)
deriving DecidableEq

namespace Promise

def listener? : Promise → Option ListenerId
  | subscription listener _ => some listener
  | _ => none

def isListener (listener : ListenerId) (p : Promise) : Bool :=
  p.listener? = some listener

def withKey (key : SubscriptionKey) : Promise → Promise
  | subscription listener _ => subscription listener (some key)
  | p => p

def farewell : Promise → Option Command
  | completion s => some (.cancelCompletion s)
  | subscription _ key => key.map .unsubscribe
  | _ => none

def broken : Promise → Outcome
  | completion _ => .error .channelClosed
  | _ => .closed

end Promise

/-- A promise, under the caller's name for it, and what has come for it and was not taken yet. -/
structure Pending where
  name : String
  promise : Promise
  arrived : List Outcome

end AccountReplica
