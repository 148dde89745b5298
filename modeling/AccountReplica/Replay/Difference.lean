import AccountReplica.Difference
import AccountReplica.Replay.Apply

/-! Replaying the answer to a difference request. -/

namespace AccountReplica

inductive DifferenceReplay
  | mismatch (found : Option SequenceState)
  | applied (state : SequenceState) (events : EventSet) (more : Bool)
deriving DecidableEq

def Difference.target (expected : SequenceState) : Difference → Except SyncError SequenceState
  | empty date seq => .ok { expected with date, seq }
  | full _ _ state => .ok state
  | slice _ _ state => .ok state
  | tooLong pts => .error (.differenceTooLong pts)

def Difference.messages : Difference → List Message
  | full ms _ _ | slice ms _ _ => ms
  | _ => []

def Difference.updates : Difference → List Update
  | full _ us _ | slice _ us _ => us
  | _ => []

def Progress.difference (p : Progress) (d : Difference) : Except Failure Progress := do
  (← p.messages d.messages).updates d.updates

/-- A jump of `qts` is told even though no update carries it. -/
def EventSet.tellQts (e : EventSet) (expected state : SequenceState) : EventSet :=
  if state.qts = expected.qts then e else { e with maxQts := some state.qts }

/-- Messages come first, then updates. Nothing is touched unless `expected` is the persisted state. -/
def replayDifference (expected : SequenceState) (d : Difference) :
    Transaction.Body DifferenceReplay := fun t => do
  if t.state = some expected then
    let state ← (d.target expected).mapError .error
    let p ← Progress.difference ⟨t, .empty⟩ d
    let p ← p.setState expected state
    return (.applied state (p.events.tellQts expected state) d.hasMore, p.txn)
  else return (.mismatch t.state, t)

end AccountReplica
