import AccountReplica.Engine.Basic

/-! Telling an event set to everyone whom it concerns. -/

namespace AccountReplica.Engine

def publishSome {α : Type} (e : Engine) (p : α → Publication) : Option α → Engine
  | some a => e.publish (p a)
  | none => e

def publishList {α : Type} (e : Engine) (p : List α → Publication) : List α → Engine
  | [] => e
  | as => e.publish (p as)

def sinkCalls (ev : EventSet) : List SinkCall :=
  (ev.activities.toList.flatMap fun (chat, users) =>
    users.toList.map fun (user, doing) => .activity chat user doing) ++
  ev.calls.map .call ++
  if ev.contacts.isEmpty then [] else [.contacts ev.contacts]

def webpageListenersOf (e : Engine) (media : MediaId) : List ListenerId :=
  (e.webpageListeners[media]?.map SubscriberBag.values).getD []

def deliveries (e : Engine) (ev : EventSet) : List Effect :=
  (ev.webpages.toList.flatMap fun (media, page) =>
    (e.webpageListenersOf media).map (.sendWebpage · page)) ++
  match ev.nearby with
  | some peers => e.nearbyListeners.values.map (.sendNearby · peers)
  | none => []

def announce (e : Engine) (ev : EventSet) : Engine :=
  let e := e.publishList .alerts ev.alerts
  let e := e.publishList .changedPeers ev.changedPeers
  let e := (sinkCalls ev).foldl (fun e c => e.emit (.sink c)) e
  let e := (e.deliveries ev).foldl emit e
  let e := e.publishSome .maxRead ev.maxRead
  let e := e.publishSome .maxQts ev.maxQts
  let e := e.publishList .readAcks ev.readAcks
  let e := e.publishSome .delayUntil ev.delayUntil
  let e := e.publishSome .terms ev.terms
  e.publishSome .release ev.release

def reportIncoming (e : Engine) (id : OperationId) (ids : List MessageId) : Engine :=
  { e with queue := e.queue.addIncoming ids }.emit (.spawn id (.resolveNotifications ids))

end AccountReplica.Engine
