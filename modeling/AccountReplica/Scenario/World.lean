import AccountReplica.Engine.Step
import AccountReplica.Scenario.Caller
import AccountReplica.Scenario.Network
import AccountReplica.Scenario.Turn

/-! A world around one engine: storage, network, callers and a clock that only moves when told to. The
engine and the tasks beside it take turns, first come, first served. -/

namespace AccountReplica

inductive CallReaction
  | nothing
  | interfere (i : Interference)
  | panic
deriving DecidableEq

structure World where
  clock : Nat
  storage : SharedStorage
  network : ScriptedNetwork
  limit : Option Int32
  slow : Bool
  /-- Does the sink keep records? One that does not reacts to nothing either. -/
  recording : Bool
  reaction : CallReaction
  /-- Absent once it has stopped or broken down. -/
  engine : Option Engine
  handle : Bool
  stats : Stats
  turns : List Turn
  paused : List Resident
  /-- Does mail wake the engine? Not while there is some that it has left unread. -/
  listening : Bool
  /-- Tasks at the storage, which serves them one by one when nobody else can go on. -/
  storing : List Flight
  waiting : List Waiting
  reports : List (OperationId × Report)
  mail : List Command
  pushed : List Container
  works : List Work
  gates : List (String × WorkId)
  begun : List WorkId
  pending : List Pending
  issued : Nat
  /-- The cells written since the last look, each by its newest value. -/
  cells : List Publication
  calls : List SinkCall
  out : List (String × Outcome)
  seenStats : Stats
  seenWrites : Nat

def Publication.cell : Publication → Nat
  | updating _ => 0
  | caughtUp _ => 1
  | notifications _ => 2
  | alerts _ => 3
  | terms _ => 4
  | release _ => 5
  | changedPeers _ => 6
  | readAcks _ => 7
  | maxRead _ => 8
  | maxQts _ => 9
  | delayUntil _ => 10
  | fatal _ => 11

/-- A date after all past and before all future dates of settings. -/
def World.today : Int32 :=
  1750000000

namespace World

def new (c : Configuration) (slow : Bool) (storage : SharedStorage) (network : ScriptedNetwork)
    (recording : Bool) (reaction : CallReaction) : World where
  clock := 0
  storage := storage
  network := network
  limit := c.limit
  slow := slow
  recording := recording
  reaction := reaction
  engine := some (.new c.retryDelay)
  handle := true
  stats := .zero
  turns := [.resident .forwarder, .resident .engine]
  paused := []
  listening := true
  storing := []
  waiting := []
  reports := []
  mail := []
  pushed := []
  works := []
  gates := []
  begun := []
  pending := []
  issued := 0
  cells := []
  calls := []
  out := []
  seenStats := .zero
  seenWrites := storage.storage.viewWrites

def interfere (w : World) (i : Interference) : World :=
  { w with storage := { w.storage with storage := w.storage.storage.interfere i } }

def write (w : World) (p : Publication) : World :=
  { w with cells := w.cells.filter (·.cell ≠ p.cell) ++ [p] }

def tell (w : World) (name : String) (o : Outcome) : World :=
  { w with out := w.out ++ [(name, o)] }

def arrive (w : World) (isFor : Promise → Bool) (o : Outcome) : World :=
  { w with
    pending := w.pending.map fun p =>
      if isFor p.promise then { p with arrived := p.arrived ++ [o] } else p }

def wake (w : World) (r : Resident) : World :=
  if w.turns.any (·.isOf r) then w else { w with turns := w.turns ++ [.resident r] }

def pause (w : World) (r : Resident) : World :=
  { w with paused := r :: w.paused }

def resume (w : World) : World :=
  w.paused.foldl wake { w with paused := [] }

def enqueue (w : World) (f : Flight) : World :=
  { w with turns := w.turns ++ [.flight f] }

def hold (w : World) (f : Flight) (h : Hold) : World :=
  { w with waiting := w.waiting ++ [⟨f, h⟩] }

def timeAfter (w : World) (ms : Nat) : Nat :=
  w.clock + min ms longestWait

def release (w : World) (isOver : Hold → Bool) : World :=
  { w with
    turns := w.turns ++ (w.waiting.filter (isOver ·.hold)).map (.flight ·.flight)
    waiting := w.waiting.filter (!isOver ·.hold) }

def dropFlights (w : World) (isDropped : Flight → Bool) : World :=
  { w with
    turns := w.turns.filter (!·.flight?.any isDropped)
    waiting := w.waiting.filter (!isDropped ·.flight) }

def report (w : World) (op : OperationId) (r : Report) : World :=
  { w with reports := w.reports ++ [(op, r)] }.wake .engine

def post (w : World) (cs : List Command) : World :=
  let w' := { w with mail := w.mail ++ cs }
  if w.listening && !cs.isEmpty then w'.wake .engine else w'

def loseEngine (w : World) : World :=
  { w with engine := none }.dropFlights (·.isTimer)

def sinkCall (w : World) (c : SinkCall) : World :=
  if w.recording then
    let w := { w with calls := w.calls ++ [c] }
    match c, w.reaction with
    | .call _, .interfere i => w.interfere i
    | .call _, .panic => w.loseEngine
    | _, _ => w
  else w

def perform (w : World) : Effect → World
  | .spawn id task => w.enqueue ⟨id, .begin task⟩
  | .armTimer id delay => w.enqueue ⟨id, .timer delay⟩
  | .cancelTimer id => w.dropFlights fun f => f.isTimer && f.op = id
  | .publish p => w.write p
  | .sink c => w.sinkCall c
  | .tally t => { w with stats := w.stats.bump t }
  | .recordError e => { w with stats := w.stats.recordError e }
  | .answerCompletion s ids => w.arrive (· = .completion s) (.ids ids)
  | .answerPrecomputed waiter replayed => w.arrive (· = .precomputed waiter) (.flag replayed)
  | .subscribed listener key =>
    { w with
      pending := w.pending.map fun p =>
        if p.promise.isListener listener then { p with promise := p.promise.withKey key } else p }
  | .sendWebpage listener page => w.arrive (·.isListener listener) (.webpage page)
  | .sendNearby listener peers => w.arrive (·.isListener listener) (.nearby peers)
  | .dispatch .. | .operations _ => w

def performAll : List Effect → World → World
  | [], w => w
  | x :: xs, w => if w.engine.isSome then performAll xs (w.perform x) else w

def feed (w : World) (i : Input) : World :=
  match w.engine with
  | none => w
  | some e =>
    let (effects, e) := (e.step i).takeEffects
    performAll effects { w with engine := some e }

def stopEngine (w : World) : World :=
  match w.engine with
  | none => w
  | some e => (performAll e.stop.takeEffects.1 w).loseEngine

end World

end AccountReplica
