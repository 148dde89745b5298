import AccountReplica.SequenceState
import AccountReplica.Update

/-! The persisted content of an account. -/

namespace AccountReplica

structure ChatSettings where
  muteUntil : Int32
  silent : Bool
deriving DecidableEq

def ChatSettings.standard : ChatSettings :=
  ⟨0, false⟩

def ChatSettings.isMuted (s : ChatSettings) (now : Int32) : Bool :=
  now < s.muteUntil

structure Account where
  /-- Absent until the account has been followed for the first time. -/
  state : Option SequenceState
  messages : Std.ExtTreeMap MessageId Message
  inboxRead : Std.ExtTreeMap PeerId Int32
  settings : Std.ExtTreeMap PeerId ChatSettings
  webpages : Std.ExtTreeMap MediaId Webpage
  contacts : Std.ExtTreeMap PeerId Bool
deriving DecidableEq

inductive Write
  | setState (state : SequenceState)
  | storeMessage (message : Message)
  | deleteMessages (ids : List MessageId)
  | readInbox (chat : PeerId) (upTo : Int32)
  | storeWebpage (page : Webpage)
  | setContact (peer : PeerId) (isContact : Bool)
deriving DecidableEq

inductive WriteKind
  | setState
  | storeMessage
  | deleteMessages
  | readInbox
  | storeWebpage
  | setContact
deriving DecidableEq

def Write.kind : Write → WriteKind
  | setState _ => .setState
  | storeMessage _ => .storeMessage
  | deleteMessages _ => .deleteMessages
  | readInbox .. => .readInbox
  | storeWebpage _ => .storeWebpage
  | setContact .. => .setContact

namespace Account

def empty : Account :=
  ⟨none, ∅, ∅, ∅, ∅, ∅⟩

def message? (a : Account) (id : MessageId) : Option Message :=
  a.messages[id]?

def maxRead (a : Account) (chat : PeerId) : Int32 :=
  a.inboxRead.getD chat 0

def settingsOf (a : Account) (chat : PeerId) : ChatSettings :=
  a.settings.getD chat .standard

def write (a : Account) : Write → Account
  | .setState state => { a with state := some state }
  | .storeMessage m => { a with messages := a.messages.insert m.id m }
  | .deleteMessages ids => { a with messages := ids.foldl (·.erase ·) a.messages }
  | .readInbox chat upTo => { a with inboxRead := a.inboxRead.insert chat (max (a.maxRead chat) upTo) }
  | .storeWebpage page => { a with webpages := a.webpages.insert page.media page }
  | .setContact peer isContact => { a with contacts := a.contacts.insert peer isContact }

end Account

def Update.write? : Update → Option Write
  | .newMessage m _ _ | .newSecretMessage m _ => some (.storeMessage m)
  | .deleteMessages ids _ _ => some (.deleteMessages ids)
  | .readInbox chat upTo _ _ => some (.readInbox chat upTo)
  | .webpage page _ _ => some (.storeWebpage page)
  | .contact peer isContact => some (.setContact peer isContact)
  | _ => none

end AccountReplica
