import AccountReplica.Replay.Difference
import AccountReplica.Replay.Groups
import AccountReplica.Notification
import AccountReplica.Operation
import AccountReplica.Storage
import AccountReplica.Configuration
import AccountReplica.Stats

/-! Replays as tasks on a storage that others change between any two transactions. -/

namespace AccountReplica

inductive Interference
  | setState (state : SequenceState)
  | failNext (n : Nat)
deriving DecidableEq

def Storage.interfere (s : Storage) : Interference → Storage
  | .setState state => s.setState state
  | .failNext n => s.failNext n

structure SharedStorage where
  storage : Storage
  asked : Nat
  /-- What happens right before the transaction with the number; the last entry for it counts. -/
  interference : List (Nat × Interference)
  refusesResources : Bool

namespace SharedStorage

def alone (s : Storage) : SharedStorage :=
  ⟨s, 0, [], false⟩

def interferedBefore (s : SharedStorage) (n : Nat) : Storage :=
  (s.interference.reverse.lookup n).elim s.storage s.storage.interfere

def run {α : Type} (body : Transaction.Body α) (s : SharedStorage) :
    Except SyncError α × SharedStorage :=
  let (r, storage) := (s.interferedBefore (s.asked + 1)).transaction body
  (r.mapError Failure.contained, { s with storage, asked := s.asked + 1 })

def storeResources (rs : List Resource) (s : SharedStorage) : Except SyncError Unit × SharedStorage :=
  if s.refusesResources then (.error (.storage "injected resource failure"), s)
  else (.ok (), { s with storage := s.storage.storeResources rs })

end SharedStorage

def readState : Transaction.Body (Option SequenceState) := fun t =>
  .ok (t.state, t)

def readNotifications (ids : List MessageId) (now : Int32) : Transaction.Body (List Notification) :=
  fun t => .ok (Notification.resolve t.account ids now, t)

structure TaskResult (α : Type) where
  result : α
  storage : SharedStorage
  tallies : List Tally

/-- The persisted state is read first, and the groups are replayed on top of it in a transaction of
their own. -/
def replayGroupsTask (slow : Bool) (gs : List UpdateGroup) (s : SharedStorage) :
    TaskResult (Except SyncError GroupReplay) :=
  match s.run readState with
  | (.error e, s) => ⟨.error e, s, []⟩
  | (.ok none, s) => ⟨.error (.stateMismatch .zero none), s, []⟩
  | (.ok (some expected), s) =>
    let (r, s) := s.run (replayGroups expected gs)
    ⟨r, s, if slow then [.slowReplays] else []⟩

def replayPrecomputedTask (slow : Bool) (p : PrecomputedState) (s : SharedStorage) :
    TaskResult (Except SyncError GroupReplay) :=
  if p.resources.isEmpty then replayGroupsTask slow p.groups s
  else match s.storeResources p.resources with
    | (.error e, s) => ⟨.error e, s, []⟩
    | (.ok (), s) => replayGroupsTask slow p.groups s

end AccountReplica
