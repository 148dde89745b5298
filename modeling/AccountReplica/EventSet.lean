import AccountReplica.Update

/-! What a replay did that matters outside storage, and how partial results are combined. -/

namespace AccountReplica

/-- Activities by chat, then by user; `none` ends what the user was doing. -/
abbrev Activities := Std.ExtTreeMap PeerId (Std.ExtTreeMap PeerId (Option Activity))

structure EventSet where
  added : List MessageId
  activities : Activities
  webpages : Std.ExtTreeMap MediaId Webpage
  nearby : Option (List NearbyPeer)
  calls : List CallChange
  contacts : List (PeerId × Bool)
  maxRead : Option Int32
  maxQts : Option Int32
  alerts : List Alert
  changedPeers : List PeerId
  readAcks : List (PeerId × Int32)
  delayUntil : Option Int32
  terms : Option TermsOfService
  release : Option AppRelease
deriving DecidableEq

def Activities.merge (a b : Activities) : Activities :=
  (a ∪ b).map fun chat _ => a.getD chat ∅ ∪ b.getD chat ∅

def largest : Option Int32 → Option Int32 → Option Int32
  | some a, some b => some (max a b)
  | a, none => a
  | none, b => b

namespace EventSet

def empty : EventSet :=
  ⟨[], ∅, ∅, none, [], [], none, none, [], [], [], none, none, none⟩

def ofAlerts (alerts : List Alert) : EventSet :=
  { empty with alerts }

def isEmpty (e : EventSet) : Bool :=
  e.added.isEmpty && e.activities.isEmpty && e.webpages.isEmpty && e.nearby.isNone &&
    e.calls.isEmpty && e.contacts.isEmpty && e.maxRead.isNone && e.maxQts.isNone &&
    e.alerts.isEmpty && e.changedPeers.isEmpty && e.readAcks.isEmpty && e.delayUntil.isNone &&
    e.terms.isNone && e.release.isNone

/-- Lists are joined, the later entry of a table and the later single value win, and of the two
marks the higher one stays. -/
def merge (a b : EventSet) : EventSet where
  added := a.added ++ b.added
  activities := a.activities.merge b.activities
  webpages := a.webpages ∪ b.webpages
  nearby := b.nearby.or a.nearby
  calls := a.calls ++ b.calls
  contacts := a.contacts ++ b.contacts
  maxRead := largest a.maxRead b.maxRead
  maxQts := largest a.maxQts b.maxQts
  alerts := a.alerts ++ b.alerts
  changedPeers := a.changedPeers ++ b.changedPeers
  readAcks := a.readAcks ++ b.readAcks
  delayUntil := b.delayUntil.or a.delayUntil
  terms := b.terms.or a.terms
  release := b.release.or a.release

def setActivity (e : EventSet) (chat user : PeerId) (doing : Option Activity) : EventSet :=
  { e with activities := e.activities.insert chat ((e.activities.getD chat ∅).insert user doing) }

def addMessage (e : EventSet) (m : Message) : EventSet :=
  let e := { e with added := e.added ++ [m.id] }
  match m.author with
  | some author => e.setActivity m.chat author none
  | none => e

def addUpdate (e : EventSet) : Update → EventSet
  | .newMessage .. | .newSecretMessage .. | .deleteMessages .. => e
  | .readInbox _ upTo _ _ => { e with maxRead := largest e.maxRead (some upTo) }
  | .readOutbox chat upTo _ _ => { e with readAcks := e.readAcks ++ [(chat, upTo)] }
  | .webpage page _ _ => { e with webpages := e.webpages.insert page.media page }
  | .activity chat user doing => e.setActivity chat user doing
  | .nearby peers => { e with nearby := some peers }
  | .call change => { e with calls := e.calls ++ [change] }
  | .contact peer isContact => { e with contacts := e.contacts ++ [(peer, isContact)] }
  | .alert alert => { e with alerts := e.alerts ++ [alert] }
  | .peerChanged peer => { e with changedPeers := e.changedPeers ++ [peer] }
  | .delayNotifications date => { e with delayUntil := some date }
  | .terms terms => { e with terms := some terms }
  | .release release => { e with release := some release }

end EventSet

end AccountReplica
