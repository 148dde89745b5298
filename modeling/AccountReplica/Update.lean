import AccountReplica.Message

/-! Single updates of a server, and the counter that each of them advances. -/

namespace AccountReplica

inductive Activity
  | typing
  | recordingVoice
  | uploadingPhoto
  | choosingSticker
deriving DecidableEq

structure Webpage where
  media : MediaId
  url : String
  title : Option String
deriving DecidableEq

structure NearbyPeer where
  peer : PeerId
  expires : Int32
  /-- In metres. -/
  distance : Int32
deriving DecidableEq

structure CallChange where
  call : Int64
  peer : PeerId
  state : String
deriving DecidableEq

structure Alert where
  text : String
  endsSession : Bool
deriving DecidableEq

structure TermsOfService where
  id : String
  text : String
  minAge : Option Int32
deriving DecidableEq

structure AppRelease where
  blocking : Bool
  version : String
  text : String
deriving DecidableEq

structure Resource where
  id : String
  data : List UInt8
deriving DecidableEq

/-- Where an update stands in the counters: it ends at `pts` and covers `count` events of the common
box, or it is the event `qts` of the secret chats, or only its container orders it. -/
inductive Sequencing
  | common (pts count : Int32)
  | secret (qts : Int32)
  | unsequenced
deriving DecidableEq

inductive Update
  | newMessage (message : Message) (pts count : Int32)
  | newSecretMessage (message : Message) (qts : Int32)
  | deleteMessages (ids : List MessageId) (pts count : Int32)
  | readInbox (chat : PeerId) (upTo : Int32) (pts count : Int32)
  | readOutbox (chat : PeerId) (upTo : Int32) (pts count : Int32)
  | webpage (page : Webpage) (pts count : Int32)
  /-- `none` ends whatever the user was doing. -/
  | activity (chat user : PeerId) (doing : Option Activity)
  | nearby (peers : List NearbyPeer)
  | call (change : CallChange)
  | contact (peer : PeerId) (isContact : Bool)
  | alert (alert : Alert)
  | peerChanged (peer : PeerId)
  | delayNotifications (date : Int32)
  | terms (terms : TermsOfService)
  | release (release : AppRelease)
deriving DecidableEq

def Update.sequencing : Update → Sequencing
  | .newMessage _ pts count
  | .deleteMessages _ pts count
  | .readInbox _ _ pts count
  | .readOutbox _ _ pts count
  | .webpage _ pts count => .common pts count
  | .newSecretMessage _ qts => .secret qts
  | _ => .unsequenced

end AccountReplica
