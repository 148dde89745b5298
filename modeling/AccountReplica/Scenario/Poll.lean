import AccountReplica.Scenario.Network
import AccountReplica.DifferencePoll

/-! Rounds of the difference poll against a scripted network. -/

namespace AccountReplica

structure PollScene where
  storage : SharedStorage
  network : ScriptedNetwork
  stats : Stats
  slow : Bool
  limit : Option Int32

structure PollRound where
  outcome : PollOutcome
  elapsed : Nat
  stored : Option SequenceState

def PollOutcome.carried : PollOutcome → EventSet
  | applied events _ | mismatch events | tooLong _ events | failed events _ => events
  | stateInitialized _ | replayFailed _ => .empty

namespace PollScene

def settle {α : Type} (s : PollScene) (r : TaskResult α) : α × PollScene :=
  (r.result, { s with storage := r.storage, stats := r.tallies.foldl Stats.bump s.stats })

def askDifference (s : PollScene) (r : DifferenceRequest) : Except SyncError Difference × PollScene :=
  let storage := match s.network.hook with
    | some i => { s.storage with storage := s.storage.storage.interfere i }
    | none => s.storage
  let (answer, network) := s.network.askDifference r
  (answer, { s with storage, network })

def round (s : PollScene) (events : EventSet) : PollOutcome × Nat × PollScene :=
  match s.settle (DifferencePoll.ask s.limit events s.storage) with
  | (.error outcome, s) => (outcome, 0, s)
  | (.ok .currentState, s) =>
    let (answer, network) := s.network.askState
    let s := { s with network }
    let (outcome, s) := s.settle (DifferencePoll.takeState events answer s.storage)
    (outcome, s.network.delay, s)
  | (.ok (.difference r), s) =>
    let (answer, s) := s.askDifference r
    let (outcome, s) := s.settle (DifferencePoll.takeDifference s.slow events r.origin answer s.storage)
    (outcome, s.network.delay, s)

def rounds : Nat → EventSet → PollScene → List PollRound × PollScene
  | 0, _, s => ([], s)
  | n + 1, events, s =>
    let (outcome, elapsed, s) := s.round events
    let (rest, s') := rounds n outcome.carried s
    (⟨outcome, elapsed, s.storage.storage.account.state⟩ :: rest, s')

end PollScene

end AccountReplica
