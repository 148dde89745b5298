import AccountReplica.Configuration
import AccountReplica.DifferencePoll
import AccountReplica.Notification
import AccountReplica.OperationQueue
import AccountReplica.SubscriberBag

/-! The engine that keeps an account in step with its server. It owns the queue of operations. What it
wants done outside is listed as effects, and the outside answers with reports. -/

namespace AccountReplica

abbrev ListenerId := Nat

inductive SubscriptionKey
  | webpage (media : MediaId) (token : BagToken)
  | nearby (token : BagToken)
deriving DecidableEq

inductive Command
  | reset
  | addGroups (groups : List UpdateGroup)
  | replayPrecomputed (state : PrecomputedState) (waiter : WaiterId)
  | addCustom (work : WorkId)
  | pollCompletion (subscriber : SubscriberId)
  | cancelCompletion (subscriber : SubscriberId)
  /-- `awaited` tells whether the subscriber is still there to be told its key. -/
  | subscribeWebpage (media : MediaId) (listener : ListenerId) (awaited : Bool)
  | subscribeNearby (listener : ListenerId) (awaited : Bool)
  | unsubscribe (key : SubscriptionKey)
  | listOperations
deriving DecidableEq

/-- Work outside the engine. Each task ends in one report. -/
inductive Task
  | pollDifference (events : EventSet)
  | replayGroups (groups : List UpdateGroup)
  | replayPrecomputed (state : PrecomputedState)
  | custom (work : WorkId)
  | fence
  | resolveNotifications (ids : List MessageId)
deriving DecidableEq

inductive Report
  | timerFired
  | differencePolled (outcome : PollOutcome)
  | groupsReplayed (result : Except SyncError GroupReplay)
  | precomputedReplayed (result : Except SyncError GroupReplay)
  | customFinished
  | fenceCompleted (result : Except SyncError Unit)
  | eventsProcessed (result : Except SyncError (List Notification))

inductive SinkCall
  | activity (chat user : PeerId) (doing : Option Activity)
  | call (change : CallChange)
  | contacts (flags : List (PeerId × Bool))
deriving DecidableEq

inductive Publication
  | updating (value : Bool)
  | caughtUp (times : Nat)
  | notifications (ns : List Notification)
  | alerts (alerts : List Alert)
  | terms (terms : TermsOfService)
  | release (release : AppRelease)
  | changedPeers (peers : List PeerId)
  | readAcks (acks : List (PeerId × Int32))
  | maxRead (number : Int32)
  | maxQts (qts : Int32)
  | delayUntil (date : Int32)
  | fatal (error : SyncError)
deriving DecidableEq

inductive Effect
  | spawn (id : OperationId) (task : Task)
  /-- Tells an event set to everyone whom it concerns; what that takes follows. -/
  | dispatch (id : OperationId) (events : EventSet)
  | armTimer (id : OperationId) (delay : Nat)
  | cancelTimer (id : OperationId)
  | publish (p : Publication)
  | sink (call : SinkCall)
  | tally (t : Tally)
  | recordError (error : SyncError)
  | answerCompletion (subscriber : SubscriberId) (ids : List MessageId)
  | answerPrecomputed (waiter : WaiterId) (replayed : Bool)
  | subscribed (listener : ListenerId) (key : SubscriptionKey)
  | sendWebpage (listener : ListenerId) (page : Webpage)
  | sendNearby (listener : ListenerId) (peers : List NearbyPeer)
  | operations (ops : List Operation)
deriving DecidableEq

structure Engine where
  retryDelay : Nat
  queue : OperationQueue
  timer : Option OperationId
  webpageListeners : Std.ExtTreeMap MediaId (SubscriberBag ListenerId)
  nearbyListeners : SubscriberBag ListenerId
  updating : Bool
  caughtUp : Nat
  effects : List Effect

namespace Engine

def new (retryDelay : Nat) : Engine :=
  ⟨retryDelay, .empty, none, ∅, .empty, false, 0, []⟩

def emit (e : Engine) (x : Effect) : Engine :=
  { e with effects := e.effects ++ [x] }

def publish (e : Engine) (p : Publication) : Engine :=
  e.emit (.publish p)

def cancelTimer (e : Engine) : Engine :=
  match e.timer with
  | some id => { e.emit (.cancelTimer id) with timer := none }
  | none => e

def finish? (e : Engine) (id : OperationId) : Option (Content × Engine) :=
  if e.queue.isRunningHead id then
    let e := if e.timer = some id then e.cancelTimer else e
    (e.queue.popHead? id).map fun (op, q) => (op.content, { e with queue := q })
  else none

def refreshUpdating (e : Engine) : Engine :=
  let now := e.queue.isUpdating
  if now = e.updating then e else { e.publish (.updating now) with updating := now }

end Engine

end AccountReplica
