import AccountReplica.Account

/-! Turning newly stored messages into notifications of their owner. -/

namespace AccountReplica

structure Notification where
  chat : PeerId
  first : Message
  ids : List MessageId
  silent : Bool
deriving DecidableEq

def Account.announced? (a : Account) (now : Int32) (id : MessageId) : Option (MessageId × Message) :=
  match a.message? id with
  | none => none
  | some m =>
    if m.incoming && a.maxRead id.peer < id.number && !(a.settingsOf id.peer).isMuted now then
      some (id, m)
    else none

namespace Notification

def takesAlbum (n : Notification) (chat : PeerId) (album : Int64) : Bool :=
  n.chat = chat && n.first.album = some album

def takesForward (n : Notification) (chat : PeerId) (m : Message) : Bool :=
  n.chat = chat && n.first.album.isNone && n.first.forwardedFrom.isSome &&
    n.first.forwardedFrom = m.forwardedFrom

def append (n : Notification) (id : MessageId) : Notification :=
  { n with ids := n.ids ++ [id] }

def appendFirst (test : Notification → Bool) (id : MessageId) :
    List Notification → Option (List Notification)
  | [] => none
  | n :: ns => if test n then some (n.append id :: ns) else (appendFirst test id ns).map (n :: ·)

/-- Of notifications listed from the newest to the oldest, the one that the message joins: the newest
of its album, or the newest of all when the message continues a run of forwards. -/
def join? (id : MessageId) (m : Message) (newestFirst : List Notification) :
    Option (List Notification) :=
  match m.album, newestFirst with
  | some album, ns => appendFirst (·.takesAlbum id.peer album) id ns
  | none, n :: ns => if n.takesForward id.peer m then some (n.append id :: ns) else none
  | none, [] => none

def add (a : Account) (newestFirst : List Notification) (im : MessageId × Message) :
    List Notification :=
  (join? im.1 im.2 newestFirst).getD
    (⟨im.1.peer, im.2, [im.1], (a.settingsOf im.1.peer).silent⟩ :: newestFirst)

/-- Messages of one album share a notification, and so do consecutive forwards from one source into
one chat. -/
def resolve (a : Account) (ids : List MessageId) (now : Int32) : List Notification :=
  ((ids.filterMap (a.announced? now)).foldl (add a) []).reverse

end Notification

end AccountReplica
