import AccountReplica.Engine.Basic

/-! What each command does to the queue and to the subscriptions. -/

namespace AccountReplica.Engine

def pollAgain (e : Engine) : Engine :=
  { e with queue := (e.queue.replaceWith (.pollDifference .empty)).2 }

def addGroups (e : Engine) (groups : List UpdateGroup) : Engine :=
  if groups.isEmpty then e
  else { e with
    queue := (e.queue.extendCollect? groups).getD (e.queue.insertLast (.collectGroups groups 0)).2 }

def unsubscribe (e : Engine) : SubscriptionKey → Engine
  | .webpage media token =>
    match e.webpageListeners[media]? with
    | none => e
    | some bag =>
      let bag := (bag.remove token).elim bag (·.2)
      { e with
        webpageListeners :=
          if bag.isEmpty then e.webpageListeners.erase media else e.webpageListeners.insert media bag }
  | .nearby token =>
    match e.nearbyListeners.remove token with
    | none => e
    | some (_, bag) => { e with nearbyListeners := bag }

/-- Tells the subscriber its key, or removes the subscription of one who is gone. -/
def confirm (e : Engine) (listener : ListenerId) (key : SubscriptionKey) (awaited : Bool) : Engine :=
  if awaited then e.emit (.subscribed listener key) else e.unsubscribe key

def command (e : Engine) : Command → Engine
  | .reset => e.pollAgain
  | .addGroups groups => e.addGroups groups
  | .replayPrecomputed state waiter =>
    { e with queue := (e.queue.insertLast (.replayPrecomputed (some state) (some waiter))).2 }
  | .addCustom work => { e with queue := (e.queue.insertLast (.custom (some work))).2 }
  | .pollCompletion s =>
    { e with
      queue := (e.queue.joinCompletion? s).getD (e.queue.insertLast (.pollCompletion [] [s])).2 }
  | .cancelCompletion s => { e with queue := e.queue.cancelCompletion s }
  | .subscribeWebpage media listener awaited =>
    let (token, bag) := (e.webpageListeners.getD media .empty).insert listener
    { e with webpageListeners := e.webpageListeners.insert media bag }.confirm listener
      (.webpage media token) awaited
  | .subscribeNearby listener awaited =>
    let (token, bag) := e.nearbyListeners.insert listener
    { e with nearbyListeners := bag }.confirm listener (.nearby token) awaited
  | .unsubscribe key => e.unsubscribe key
  | .listOperations => e.emit (.operations e.queue.operations)

end AccountReplica.Engine
