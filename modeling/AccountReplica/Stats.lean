import AccountReplica.SyncError

/-! Counts of what the engine has done. -/

namespace AccountReplica

inductive Tally
  | differencesPolled
  | slicesApplied
  | batchesReplayed
  | stateMismatches
  | replayFailures
  | fencesIssued
  | fenceFailures
  | customOperations
  | slowReplays
deriving DecidableEq

namespace Tally

def all : List Tally :=
  [differencesPolled, slicesApplied, batchesReplayed, stateMismatches, replayFailures, fencesIssued,
    fenceFailures, customOperations, slowReplays]

def name : Tally → String
  | differencesPolled => "differences_polled"
  | slicesApplied => "slices_applied"
  | batchesReplayed => "batches_replayed"
  | stateMismatches => "state_mismatches"
  | replayFailures => "replay_failures"
  | fencesIssued => "fences_issued"
  | fenceFailures => "fence_failures"
  | customOperations => "custom_operations"
  | slowReplays => "slow_replays"

def ofName? (s : String) : Option Tally :=
  all.find? (·.name = s)

end Tally

structure Stats where
  count : Tally → Nat
  lastError : Option String

namespace Stats

def zero : Stats :=
  ⟨fun _ => 0, none⟩

def add (s : Stats) (t : Tally) (n : Nat) : Stats :=
  { s with count := fun u => if u = t then s.count u + n else s.count u }

def bump (s : Stats) (t : Tally) : Stats :=
  s.add t 1

def add? (s : Stats) (t : Tally) (n : Nat) : Except Overflow Stats :=
  if s.count t + n < UInt64.size then .ok (s.add t n) else .error .sum

def recordError (s : Stats) (e : SyncError) : Stats :=
  { s with lastError := some e.message }

end Stats

end AccountReplica
