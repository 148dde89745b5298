import AccountReplica.Container
import AccountReplica.Replay.Task

/-! A network that answers as it was told to. -/

namespace AccountReplica

/-- Thirty years, in milliseconds. Whoever wants to wait longer waits as long as this. -/
def longestWait : Nat :=
  30 * 365 * 24 * 60 * 60 * 1000

structure ScriptedNetwork where
  currentState : Except SyncError SequenceState
  differences : List (Except SyncError Difference)
  fence : Except SyncError Unit
  latency : Nat
  hooks : List (Option Interference)
  /-- Answers to new requests are held until a permit lets them go. -/
  gated : Bool
  permits : Nat
  requests : List DifferenceRequest
  currentStateCalls : Nat
  fenceCalls : Nat

namespace ScriptedNetwork

def unscripted : ScriptedNetwork :=
  ⟨.error (.transport "no mock current state set" false), [], .ok (), 0, [], false, 0, [], 0, 0⟩

def delay (n : ScriptedNetwork) : Nat :=
  min n.latency longestWait

def askState (n : ScriptedNetwork) : Except SyncError SequenceState × ScriptedNetwork :=
  (n.currentState, { n with currentStateCalls := n.currentStateCalls + 1 })

def askFence (n : ScriptedNetwork) : Except SyncError Unit × ScriptedNetwork :=
  (n.fence, { n with fenceCalls := n.fenceCalls + 1 })

def hook (n : ScriptedNetwork) : Option Interference :=
  (n.hooks[n.requests.length]?).join

def askDifference (n : ScriptedNetwork) (r : DifferenceRequest) :
    Except SyncError Difference × ScriptedNetwork :=
  (n.differences.head?.getD (.error (.transport "no mock difference queued" false)),
    { n with requests := n.requests ++ [r], differences := n.differences.tail })

end ScriptedNetwork

structure PushStream where
  waiting : List Container
  taken : Bool
  dropped : Bool

namespace PushStream

def untouched : PushStream :=
  ⟨[], false, false⟩

def push (s : PushStream) (c : Container) : PushStream :=
  if s.dropped then s else { s with waiting := s.waiting ++ [c] }

def isHeld (s : PushStream) : Bool :=
  s.taken && !s.dropped

def drop (s : PushStream) : PushStream :=
  if s.isHeld then { s with waiting := [], dropped := true } else s

end PushStream

end AccountReplica
