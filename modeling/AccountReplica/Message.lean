import AccountReplica.Identifiers

/-! Messages as the server delivers them. -/

namespace AccountReplica

structure Message where
  id : MessageId
  author : Option PeerId
  date : Int32
  incoming : Bool
  text : String
  album : Option Int64
  forwardedFrom : Option PeerId
deriving DecidableEq

namespace Message

def received (id : MessageId) (author : PeerId) (date : Int32) (text : String) : Message :=
  ⟨id, some author, date, true, text, none, none⟩

def sent (id : MessageId) (date : Int32) (text : String) : Message :=
  ⟨id, none, date, false, text, none, none⟩

def inAlbum (m : Message) (album : Int64) : Message :=
  { m with album := some album }

def forwardOf (m : Message) (source : PeerId) : Message :=
  { m with forwardedFrom := some source }

def chat (m : Message) : PeerId :=
  m.id.peer

end Message

end AccountReplica
