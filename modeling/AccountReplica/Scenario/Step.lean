import AccountReplica.Scenario.Schedule

/-! What can be done to a world. A step that speaks of something unheard of is refused. -/

namespace AccountReplica

inductive Topic
  | webpage (media : MediaId)
  | nearby
deriving DecidableEq

/-- Changes of the network's script; the differences are added to those that wait. -/
structure NetworkChange where
  currentState : Option (Except SyncError SequenceState)
  differences : List (Except SyncError Difference)
  fence : Option (Except SyncError Unit)
  latency : Option Nat
  gated : Option Bool

inductive Act
  | reset (name : String)
  | addContainer (name : String) (c : Container)
  | addGroups (name : String) (gs : List UpdateGroup)
  | push (c : Container)
  | replayPrecomputed (name : String) (state : PrecomputedState)
  | pollCompletion (name : String)
  | custom (name : String) (plan : WorkPlan)
  | openGate (name : String) (how : WorkEnd)
  | drop (name : String)
  | network (change : NetworkChange)
  | release (permits : Nat)
  | interfere (i : Interference)
  | setSettings (chat : PeerId) (settings : ChatSettings)
  | dropHandle

inductive Step
  | batch (acts : List Act)
  | subscribe (name : String) (topic : Topic)
  /-- Subscribes, and is gone before the subscription is confirmed. -/
  | abandon (name : String) (topic : Topic)
  | recv (name : String)
  | advance (ms : Nat)
  | shutdown

def ScriptedNetwork.change (n : ScriptedNetwork) (c : NetworkChange) : ScriptedNetwork :=
  { n with
    currentState := c.currentState.getD n.currentState
    differences := n.differences ++ c.differences
    fence := c.fence.getD n.fence
    latency := c.latency.getD n.latency
    gated := c.gated.getD n.gated }

def Topic.command (listener : ListenerId) (awaited : Bool) : Topic → Command
  | webpage media => .subscribeWebpage media listener awaited
  | nearby => .subscribeNearby listener awaited

namespace World

def recvPatience : Nat :=
  500

def send (w : World) (name : String) (c : Command) : World :=
  if w.handle then w.post [c] else w.tell name .stopped

def ask (w : World) (name : String) (promise : Nat → Promise) (c : Nat → Command) : World :=
  if w.handle then
    { w with
      issued := w.issued + 1
      pending := w.pending ++ [Pending.mk name (promise w.issued) []] }.post [c w.issued]
  else w.tell name .stopped

def drop (w : World) (name : String) : World :=
  let farewells := (w.pending.filter (·.name = name)).filterMap (·.promise.farewell)
  let w := { w with pending := w.pending.filter (·.name ≠ name) }
  if w.handle then w.post farewells else w

def letGo (w : World) (id : WorkId) (how : WorkEnd) : World :=
  let works := w.works.map fun k =>
    if k.id = id then { k with plan := .gated (some how) } else k
  { w with works }.release (· = Hold.gate id)

def openGate? (w : World) (name : String) (how : WorkEnd) : Option World :=
  (w.gates.lookup name).map fun id =>
    { w with gates := w.gates.filter (·.1 ≠ name) }.letGo id how

def addGate (w : World) (name : String) (id : WorkId) : World :=
  let w := (w.openGate? name (.err "gate dropped")).getD w
  { w with gates := (name, id) :: w.gates }

def custom (w : World) (name : String) (plan : WorkPlan) : World :=
  let w := { w with works := w.works ++ [Work.mk w.issued plan] }
  let w := if w.handle ∧ plan = .gated none then w.addGate name w.issued else w
  w.ask name .work .addCustom

def addPermits (w : World) (n : Nat) : World :=
  let (fs, waiting) := Waiting.permitted n w.waiting
  { w with
    turns := w.turns ++ fs.map .flight
    waiting
    network := { w.network with permits := w.network.permits + (n - fs.length) } }

def act (w : World) : Act → Option World
  | .reset name => w.send name .reset
  | .addContainer name c => w.send name (.addGroups c.groups)
  | .addGroups name gs => w.send name (.addGroups gs)
  | .push c => { w with pushed := w.pushed ++ [c] }.wake .forwarder
  | .replayPrecomputed name state => w.ask name .precomputed (.replayPrecomputed state)
  | .pollCompletion name => w.ask name .completion .pollCompletion
  | .custom name plan => w.custom name plan
  | .openGate name how => w.openGate? name how
  | .drop name => w.drop name
  | .network change => some { w with network := w.network.change change }
  | .release n => w.addPermits n
  | .interfere i => w.interfere i
  | .setSettings chat settings => some { w with
      storage := { w.storage with storage := w.storage.storage.setSettings chat settings } }
  | .dropHandle => { w with handle := false }.wake .engine

def subscribe (w : World) (name : String) (topic : Topic) : World :=
  if w.handle ∧ w.engine.isNone then w.tell name (.error .channelClosed)
  else (w.ask name (.subscription · none) (topic.command · true)).settle

def abandon (w : World) (name : String) (topic : Topic) : World :=
  if w.handle ∧ w.engine.isNone then w.tell name (.error .channelClosed)
  else ({ w with issued := w.issued + 1 }.send name (topic.command w.issued false)).settle

def listener? (w : World) (name : String) : Option ListenerId :=
  w.pending.findSome? fun p => if p.name = name then p.promise.listener? else none

def arrivedFor (w : World) (listener : ListenerId) : List Outcome :=
  ((w.pending.find? (·.promise.isListener listener)).map (·.arrived)).getD []

def takeArrived (w : World) (listener : ListenerId) : World :=
  { w with
    pending := w.pending.map fun p =>
      if p.promise.isListener listener then { p with arrived := p.arrived.tail } else p }

def recv (w : World) (name : String) (listener : ListenerId) : World :=
  let w := w.drive (w.timeAfter recvPatience) fun w =>
    !(w.arrivedFor listener).isEmpty || w.engine.isNone
  match w.arrivedFor listener with
  | o :: _ => (w.takeArrived listener).tell name o
  | [] => w.tell name (if w.engine.isNone then .closed else .waiting)

def shutdown (w : World) : World :=
  if w.handle then
    let w := w.tell "shutdown" (if w.engine.isSome then .done else .error .channelClosed)
    { w.stopEngine with handle := false }.settle
  else w.tell "shutdown" .stopped

def step (w : World) : Step → Option World
  | .batch acts => (acts.foldlM act w).map settle
  | .subscribe name topic => w.subscribe name topic
  | .abandon name topic => w.abandon name topic
  | .recv name => (w.listener? name).map (w.recv name)
  | .advance ms => w.drive (w.timeAfter ms) fun _ => false
  | .shutdown => w.shutdown

end World

end AccountReplica
