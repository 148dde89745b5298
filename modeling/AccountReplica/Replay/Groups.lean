import AccountReplica.Container
import AccountReplica.Replay.Walk
import AccountReplica.StableSort

/-! Replaying a batch of pushed groups on top of the state that it was prepared for. -/

namespace AccountReplica

def CommonGroup.start (g : CommonGroup) : Int :=
  g.pts.toInt - g.count.toInt

namespace Track

/-- `continues` is exact here: a batch with a start beyond 32 bits is not replayed at all. -/
def common : Track CommonGroup where
  updates g := g.updates
  continues s g := .ok (g.start = s.pts.toInt)
  covered s g := g.pts ≤ s.pts
  advance s g := { s with pts := g.pts }
  tell _ e := e

def secret : Track SecretGroup where
  updates g := g.updates
  continues s g := do return (← Counter.check .difference (g.qts.toInt - 1)) = s.qts.toInt
  covered s g := g.qts ≤ s.qts
  advance s g := { s with qts := g.qts }
  tell g e := { e with maxQts := largest e.maxQts (some g.qts) }

def numbered : Track NumberedGroup where
  updates g := g.updates
  continues s g :=
    if g.first = 0 then .ok true
    else do return g.first.toInt = (← Counter.check .sum (s.seq.toInt + 1))
  covered s g := g.last ≤ s.seq
  advance s g := { s with seq := max s.seq g.last, date := max s.date g.date }
  tell _ e := e

end Track

structure Batch where
  common : List CommonGroup
  secret : List SecretGroup
  numbered : List NumberedGroup
  dated : List DatedGroup
  tooLong : Bool
deriving DecidableEq

def Batch.ofGroups (gs : List UpdateGroup) : Batch where
  common := StableSort.sort CommonGroup.start (gs.filterMap UpdateGroup.common?)
  secret := StableSort.sort (·.qts.toInt) (gs.filterMap UpdateGroup.secret?)
  numbered := StableSort.sort (·.first.toInt) (gs.filterMap UpdateGroup.numbered?)
  dated := gs.filterMap UpdateGroup.dated?
  tooLong := gs.contains .tooLong

structure GroupReplay where
  events : EventSet
  shouldPoll : Bool
  common : Verdicts CommonGroup
  secret : Verdicts SecretGroup
  numbered : Verdicts NumberedGroup
  dated : List DatedGroup
deriving DecidableEq

namespace GroupReplay

def remaining (r : GroupReplay) : List UpdateGroup :=
  r.common.held.map .common ++ r.secret.held.map .secret ++ r.numbered.held.map .numbered

def incomplete (r : GroupReplay) : Bool :=
  !r.remaining.isEmpty

end GroupReplay

def DatedGroup.apply (sp : SequenceState × Progress) (g : DatedGroup) :
    Except Failure (SequenceState × Progress) := do
  let p ← sp.2.updates g.updates
  return ({ sp.1 with date := max sp.1.date g.date }, p)

def Batch.replay (b : Batch) (expected : SequenceState) (t : Transaction) :
    Except Failure (GroupReplay × Transaction) := do
  if b.common.all fun g => Counter.Fits g.start then
    let common ← Track.common.walk b.common expected ⟨t, .empty⟩
    let secret ← Track.secret.walk b.secret common.state common.progress
    let numbered ← Track.numbered.walk b.numbered secret.state secret.progress
    let (state, p) ← b.dated.foldlM DatedGroup.apply (numbered.state, numbered.progress)
    let p ← p.setState expected state
    return (⟨p.events, b.tooLong, common.verdicts, secret.verdicts, numbered.verdicts, b.dated⟩, p.txn)
  else .error (.overflow .difference)

/-- Groups of a counter are applied in order. Those that it already covers are skipped, and the first
gap holds back all that follow. Nothing is touched unless `expected` is the persisted state. -/
def replayGroups (expected : SequenceState) (gs : List UpdateGroup) :
    Transaction.Body GroupReplay := fun t =>
  if t.state = some expected then (Batch.ofGroups gs).replay expected t
  else .error (.error (.stateMismatch expected t.state))

end AccountReplica
