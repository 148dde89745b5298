import AccountReplica.Update
import AccountReplica.Wire.Value

/-! Written forms of messages and updates. -/

namespace AccountReplica.Wire

instance : Form Message where
  toValue m := .record [("id", toValue m.id), ("author", toValue m.author), ("date", toValue m.date),
    ("incoming", toValue m.incoming), ("text", toValue m.text), ("group_id", toValue m.album),
    ("forward_from", toValue m.forwardedFrom)]
  ofValue? v := do
    let f ← v.fields? ["id", "author", "date", "incoming", "text", "group_id", "forward_from"]
    return ⟨← required f "id", ← optional f "author", ← required f "date", ← required f "incoming",
      ← required f "text", ← optional f "group_id", ← optional f "forward_from"⟩

def activityName : Activity → String
  | .typing => "Typing"
  | .recordingVoice => "RecordingVoice"
  | .uploadingPhoto => "UploadingPhoto"
  | .choosingSticker => "ChoosingSticker"

instance : Form Activity where
  toValue a := .text (activityName a)
  ofValue? v := do
    let (name, content) ← v.variant?
    if Value.isUnit content then
      [Activity.typing, .recordingVoice, .uploadingPhoto, .choosingSticker].find? (activityName · = name)
    else none

instance : Form Webpage where
  toValue w := .record [("media_id", toValue w.media), ("url", toValue w.url), ("title", toValue w.title)]
  ofValue? v := do
    let f ← v.fields? ["media_id", "url", "title"]
    return ⟨← required f "media_id", ← required f "url", ← optional f "title"⟩

instance : Form NearbyPeer where
  toValue n := .record [("peer_id", toValue n.peer), ("expires", toValue n.expires),
    ("distance", toValue n.distance)]
  ofValue? v := do
    let f ← v.fields? ["peer_id", "expires", "distance"]
    return ⟨← required f "peer_id", ← required f "expires", ← required f "distance"⟩

instance : Form CallChange where
  toValue c := .record [("call_id", toValue c.call), ("peer_id", toValue c.peer),
    ("state", toValue c.state)]
  ofValue? v := do
    let f ← v.fields? ["call_id", "peer_id", "state"]
    return ⟨← required f "call_id", ← required f "peer_id", ← required f "state"⟩

instance : Form Alert where
  toValue a := .record [("text", toValue a.text), ("is_drop_auth", toValue a.endsSession)]
  ofValue? v := do
    let f ← v.fields? ["text", "is_drop_auth"]
    return ⟨← required f "text", ← required f "is_drop_auth"⟩

instance : Form TermsOfService where
  toValue t := .record [("id", toValue t.id), ("text", toValue t.text), ("min_age", toValue t.minAge)]
  ofValue? v := do
    let f ← v.fields? ["id", "text", "min_age"]
    return ⟨← required f "id", ← required f "text", ← optional f "min_age"⟩

instance : Form AppRelease where
  toValue r := .record [("blocking", toValue r.blocking), ("version", toValue r.version),
    ("text", toValue r.text)]
  ofValue? v := do
    let f ← v.fields? ["blocking", "version", "text"]
    return ⟨← required f "blocking", ← required f "version", ← required f "text"⟩

instance : Form Resource where
  toValue r := .record [("id", toValue r.id), ("data", toValue r.data)]
  ofValue? v := do
    let f ← v.fields? ["id", "data"]
    return ⟨← required f "id", ← required f "data"⟩

def updateToValue : Update → Value
  | .newMessage m pts count => .variant "NewMessage"
    [("message", toValue m), ("pts", toValue pts), ("pts_count", toValue count)]
  | .newSecretMessage m qts => .variant "NewEncryptedMessage"
    [("message", toValue m), ("qts", toValue qts)]
  | .deleteMessages ids pts count => .variant "DeleteMessages"
    [("ids", toValue ids), ("pts", toValue pts), ("pts_count", toValue count)]
  | .readInbox chat upTo pts count => .variant "ReadInbox"
    [("peer_id", toValue chat), ("max_id", toValue upTo), ("pts", toValue pts),
      ("pts_count", toValue count)]
  | .readOutbox chat upTo pts count => .variant "ReadOutbox"
    [("peer_id", toValue chat), ("max_id", toValue upTo), ("pts", toValue pts),
      ("pts_count", toValue count)]
  | .webpage page pts count => .variant "WebpageUpdated"
    [("webpage", toValue page), ("pts", toValue pts), ("pts_count", toValue count)]
  | .activity chat user doing => .variant "UserTyping"
    [("chat_id", toValue chat), ("user_id", toValue user), ("activity", toValue doing)]
  | .nearby peers => .record [("PeersNearby", toValue peers)]
  | .call change => .record [("PhoneCall", toValue change)]
  | .contact peer isContact => .variant "ContactFlag"
    [("peer_id", toValue peer), ("is_contact", toValue isContact)]
  | .alert alert => .record [("ServiceNotification", toValue alert)]
  | .peerChanged peer => .record [("PeerUpdated", toValue peer)]
  | .delayNotifications date => .variant "DelayNotifications" [("until", toValue date)]
  | .terms terms => .record [("TermsOfService", toValue terms)]
  | .release release => .record [("AppUpdate", toValue release)]

def updateOfVariant? (name : String) (v : Value) : Option Update :=
  match name with
  | "NewMessage" => do
    let f ← v.named?
    return .newMessage (← required f "message") (← required f "pts") (← required f "pts_count")
  | "NewEncryptedMessage" => do
    let f ← v.named?
    return .newSecretMessage (← required f "message") (← required f "qts")
  | "DeleteMessages" => do
    let f ← v.named?
    return .deleteMessages (← required f "ids") (← required f "pts") (← required f "pts_count")
  | "ReadInbox" => do
    let f ← v.named?
    return .readInbox (← required f "peer_id") (← required f "max_id") (← required f "pts")
      (← required f "pts_count")
  | "ReadOutbox" => do
    let f ← v.named?
    return .readOutbox (← required f "peer_id") (← required f "max_id") (← required f "pts")
      (← required f "pts_count")
  | "WebpageUpdated" => do
    let f ← v.named?
    return .webpage (← required f "webpage") (← required f "pts") (← required f "pts_count")
  | "UserTyping" => do
    let f ← v.named?
    return .activity (← required f "chat_id") (← required f "user_id") (← optional f "activity")
  | "PeersNearby" => (ofValue? v).map .nearby
  | "PhoneCall" => (ofValue? v).map .call
  | "ContactFlag" => do
    let f ← v.named?
    return .contact (← required f "peer_id") (← required f "is_contact")
  | "ServiceNotification" => (ofValue? v).map .alert
  | "PeerUpdated" => (ofValue? v).map .peerChanged
  | "DelayNotifications" => do
    let f ← v.named?
    return .delayNotifications (← required f "until")
  | "TermsOfService" => (ofValue? v).map .terms
  | "AppUpdate" => (ofValue? v).map .release
  | _ => none

instance : Form Update where
  toValue := updateToValue
  ofValue? v := do
    let (name, content) ← v.variant?
    updateOfVariant? name (← content)

end AccountReplica.Wire
