import AccountReplica.Engine.Step
import AccountReplica.Proofs.Storage.Known

/-! An engine and what is under way around it, in any order: commands come, tasks go on and reports are
delivered whenever they like, and others write to the storage in between. -/

namespace AccountReplica

/-- What is under way on behalf of an operation: a task, an armed timer, or a report that has not been
delivered. -/
inductive Errand
  | task (task : Task)
  | asked (events : EventSet) (question : DifferencePoll.Question)
  | timer
  | report (report : Report)

structure Circumstances where
  limit : Option Int32
  slow : Bool
  now : Int32
  state : Except SyncError SequenceState
  difference : Except SyncError Difference
  fence : Except SyncError Unit

inductive Commit
  | batch (replay : GroupReplay) (left : Account)
  | difference (events : EventSet) (left : Account)

def DifferencePoll.committed? (origin : SequenceState) (answer : Except SyncError Difference)
    (s : SharedStorage) : Option EventSet :=
  match answer with
  | .error _ => none
  | .ok d =>
    match (s.run (replayDifference origin d)).1 with
    | .ok (.applied _ events _) => some events
    | _ => none

structure Stride where
  errand : Errand
  storage : SharedStorage
  commit : Option Commit

namespace Errand

def proceed (c : Circumstances) (s : SharedStorage) : Errand → Stride
  | task (.pollDifference events) =>
    let r := DifferencePoll.ask c.limit events s
    match r.result with
    | .error outcome => ⟨report (.differencePolled outcome), r.storage, none⟩
    | .ok question => ⟨asked events question, r.storage, none⟩
  | asked events .currentState =>
    let r := DifferencePoll.takeState events c.state s
    ⟨report (.differencePolled r.result), r.storage, none⟩
  | asked events (.difference request) =>
    let r := DifferencePoll.takeDifference c.slow events request.origin c.difference s
    ⟨report (.differencePolled r.result), r.storage,
      (DifferencePoll.committed? request.origin c.difference s).map (.difference · r.storage.storage.account)⟩
  | task (.replayGroups groups) =>
    let r := replayGroupsTask c.slow groups s
    ⟨report (.groupsReplayed r.result), r.storage, r.result.toOption.map (.batch · r.storage.storage.account)⟩
  | task (.replayPrecomputed state) =>
    let r := replayPrecomputedTask c.slow state s
    ⟨report (.precomputedReplayed r.result), r.storage, r.result.toOption.map (.batch · r.storage.storage.account)⟩
  | task (.custom _) => ⟨report .customFinished, s, none⟩
  | task .fence => ⟨report (.fenceCompleted c.fence), s, none⟩
  | task (.resolveNotifications ids) =>
    let (r, s) := s.run (readNotifications ids c.now)
    ⟨report (.eventsProcessed r), s, none⟩
  | timer => ⟨report .timerFired, s, none⟩
  | report r => ⟨report r, s, none⟩

end Errand

inductive Entry
  | turn (before : Engine) (input : Input)
  | commit (id : OperationId) (what : Commit)

structure Replica where
  engine : Engine
  storage : SharedStorage
  underway : List (OperationId × Errand)
  history : List Entry

inductive Move
  | command (c : Command)
  | proceed (n : Nat) (c : Circumstances)
  /-- The errand with this index is a report, and the engine takes it. -/
  | deliver (n : Nat)
  | interfere (s : SharedStorage)

namespace Replica

def new (retryDelay : Nat) (storage : SharedStorage) : Replica :=
  ⟨.new retryDelay, storage, [], []⟩

def perform (underway : List (OperationId × Errand)) : Effect → List (OperationId × Errand)
  | .spawn id task => underway ++ [(id, .task task)]
  | .armTimer id _ => underway ++ [(id, .timer)]
  | .cancelTimer id => underway.filter fun x => !(x.1 = id && x.2 matches .timer)
  | _ => underway

def feed (r : Replica) (i : Input) : Replica :=
  let (effects, engine) := (r.engine.step i).takeEffects
  { r with
    engine
    underway := effects.foldl perform r.underway
    history := r.history ++ [.turn r.engine i] }

/-- A move that is not possible changes nothing. Others never make an account unknown. -/
def move (r : Replica) : Move → Replica
  | .command c => r.feed (.command c)
  | .proceed n c =>
    match r.underway[n]? with
    | none => r
    | some (id, errand) =>
      let s := errand.proceed c r.storage
      { r with
        storage := s.storage
        underway := r.underway.set n (id, s.errand)
        history := r.history ++ (s.commit.map (.commit id)).toList }
  | .deliver n =>
    match r.underway[n]? with
    | some (id, .report report) => { r with underway := r.underway.eraseIdx n }.feed (.report id report)
    | _ => r
  | .interfere s => if r.storage.Known → s.Known then { r with storage := s } else r

def run (r : Replica) (moves : List Move) : Replica :=
  moves.foldl move r

end Replica

namespace Effect

def dispatched? : Effect → Option EventSet
  | dispatch _ events => some events
  | _ => none

end Effect

namespace Entry

def effects : Entry → List Effect
  | turn before input => (before.step input).effects
  | commit .. => []

def dispatched (x : Entry) : List EventSet :=
  x.effects.filterMap Effect.dispatched?

end Entry

namespace Replica

def sampleStorage : SharedStorage :=
  .alone (Storage.empty.setState ⟨10, 0, 60, 1⟩)

def sampleMessage : Message :=
  .received ⟨⟨1⟩, 7⟩ ⟨2⟩ 60 "hello"

def sampleGroup : UpdateGroup :=
  .common ⟨[.newMessage sampleMessage 11 1], 11, 1⟩

def answering (d : Difference) : Circumstances :=
  ⟨none, false, 60, .ok .zero, .ok d, .ok ()⟩

def calm : Circumstances :=
  answering (.empty 61 1)

def pushing (groups : List UpdateGroup) : List Move :=
  [.command (.addGroups groups), .proceed 0 calm, .deliver 0, .proceed 0 calm, .deliver 0]

end Replica

end AccountReplica
