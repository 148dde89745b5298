import AccountReplica.Engine.Step
import AccountReplica.Proofs.Engine.Start

/-! Commands on a webpage are all that concerns those who follow webpages. Whatever else the engine does leaves them
alone, and tells nobody a key. -/

namespace AccountReplica

structure Subscription where
  media : MediaId
  token : BagToken
  listener : ListenerId
deriving DecidableEq

def Effect.subscription? : Effect → Option Subscription
  | subscribed listener (.webpage media token) => some ⟨media, token, listener⟩
  | _ => none

def subscriptions (xs : List Effect) : List Subscription :=
  xs.filterMap Effect.subscription?

lemma subscriptions_append (xs ys : List Effect) : subscriptions (xs ++ ys) = subscriptions xs ++ subscriptions ys :=
  List.filterMap_append

lemma Effect.IsNews.subscription? {x : Effect} (h : x.IsNews) : x.subscription? = none := by
  cases x with
  | subscribed => cases h
  | _ => rfl

def Command.onWebpages : Command → Bool
  | subscribeWebpage .. | unsubscribe (.webpage ..) => true
  | _ => false

def Input.onWebpages : Input → Bool
  | command c => c.onWebpages
  | report .. => false

namespace Engine

structure Spares (e e' : Engine) : Prop where
  webpages : e'.webpageListeners = e.webpageListeners
  subscriptions : subscriptions e'.effects = subscriptions e.effects

variable {e e' e'' : Engine}

namespace Spares

lemma refl (e : Engine) : e.Spares e :=
  ⟨rfl, rfl⟩

lemma trans (h : e.Spares e') (h' : e'.Spares e'') : e.Spares e'' :=
  ⟨h'.webpages.trans h.webpages, h'.subscriptions.trans h.subscriptions⟩

lemma emit {x : Effect} (hx : x.subscription? = none) : e.Spares (e.emit x) where
  webpages := rfl
  subscriptions := by simp [Engine.emit, AccountReplica.subscriptions, hx]

end Spares

lemma Tells.spares (h : e.Tells e') : e.Spares e' := by
  obtain ⟨xs, rfl, hx⟩ := h
  refine ⟨rfl, ?_⟩
  rw [subscriptions_append, subscriptions, subscriptions,
    List.filterMap_eq_nil_iff.mpr fun x hm => (hx x hm).subscription?, List.append_nil]

lemma spares_cancelTimer (e : Engine) : e.Spares e.cancelTimer := by
  simp only [cancelTimer]
  split
  · exact ⟨rfl, (Spares.emit (e := e) rfl).subscriptions⟩
  · exact .refl e

lemma spares_start (e : Engine) (op : Operation) (rest : List Operation) : e.Spares (e.start op rest).1 := by
  have hrun : e.Spares (e.run op rest) := ⟨rfl, rfl⟩
  rw [start]
  split
  · exact hrun.trans (.emit rfl)
  · have hc := hrun.trans (spares_cancelTimer _)
    exact hc.trans ⟨rfl, (Spares.emit rfl).subscriptions⟩
  · exact hrun.trans (.emit rfl)
  · exact hrun.trans (.emit rfl)
  · exact ⟨rfl, rfl⟩
  · exact hrun.trans (.emit rfl)
  · split
    · exact (hrun.trans (.emit rfl)).trans (.emit rfl)
    · exact ⟨rfl, rfl⟩
  · next ev _ =>
    have ha : e.Spares (((e.run op rest).emit (.dispatch op.id ev)).announce ev) :=
      (hrun.trans (.emit rfl)).trans (tells_announce _ ev).spares
    dsimp only
    split
    · exact ha.trans ⟨rfl, rfl⟩
    · exact ha.trans ⟨rfl, (Spares.emit (x := .spawn op.id _) rfl).subscriptions⟩

lemma spares_startFirst (e : Engine) : e.Spares e.startFirst :=
  startFirst_keeps .refl .trans spares_start e

lemma spares_refreshUpdating (e : Engine) : e.Spares e.refreshUpdating := by
  simp only [refreshUpdating]
  split
  · exact .refl e
  · exact ⟨rfl, (Spares.emit (e := e) rfl).subscriptions⟩

lemma spares_finish? {id : OperationId} {c : Content} (h : e.finish? id = some (c, e')) : e.Spares e' := by
  simp only [finish?] at h
  split at h
  · obtain ⟨⟨op, q⟩, -, hq⟩ := Option.map_eq_some_iff.mp h
    cases hq
    split
    · exact (spares_cancelTimer e).trans ⟨rfl, rfl⟩
    · exact ⟨rfl, rfl⟩
  · cases h

lemma spares_flush (e : Engine) (ev : EventSet) : e.Spares (e.flush ev) := by
  simp only [flush]
  split <;> exact ⟨rfl, rfl⟩

lemma spares_pollAfterBatch (e : Engine) (alerts : List Alert) : e.Spares (e.pollAfterBatch alerts) := by
  simp only [pollAfterBatch]
  split <;> exact ⟨rfl, rfl⟩

lemma spares_settleBatch (e : Engine) (r : GroupReplay) : e.Spares (e.settleBatch r) := by
  have hs : e.Spares (e.emit (.tally .batchesReplayed)) := .emit rfl
  simp only [settleBatch]
  split
  · exact hs.trans (spares_pollAfterBatch _ _)
  · have hf := hs.trans (spares_flush _ r.events)
    split
    · exact hf.trans ⟨rfl, rfl⟩
    · exact hf

lemma spares_timerFired (e : Engine) (id : OperationId) : e.Spares (e.timerFired id) := by
  have ht : e.Spares { e with timer := none } := ⟨rfl, rfl⟩
  simp only [timerFired]
  split
  · exact .refl e
  · split
    · next hf =>
      split <;> exact (ht.trans (spares_finish? hf)).trans ⟨rfl, rfl⟩
    · next hf => exact ht.trans (spares_finish? hf)
    · exact ht

lemma spares_reportPollFailure (e : Engine) (error : SyncError) : e.Spares (e.reportPollFailure error) := by
  have hs : e.Spares (e.emit (.recordError error)) := .emit rfl
  simp only [reportPollFailure]
  split
  · exact hs.trans (.emit rfl)
  · exact hs

lemma spares_differencePolled (e : Engine) (outcome : PollOutcome) : e.Spares (e.differencePolled outcome) := by
  cases outcome with
  | stateInitialized _ => exact .refl e
  | applied ev more =>
    cases more with
    | true => exact ⟨rfl, rfl⟩
    | false =>
      exact (spares_flush e ev).trans ⟨rfl, (Spares.emit rfl).subscriptions⟩
  | mismatch ev => exact ⟨rfl, (Spares.emit (e := e) (x := .tally .stateMismatches) rfl).subscriptions⟩
  | tooLong pts ev => exact (spares_reportPollFailure e _).trans (spares_flush _ ev)
  | failed ev error =>
    have hs : e.Spares (e.emit (.tally .replayFailures)) := .emit rfl
    exact (hs.trans (spares_reportPollFailure _ error)).trans (spares_flush _ ev)
  | replayFailed error =>
    have hs : e.Spares (e.emit (.tally .replayFailures)) := .emit rfl
    exact (hs.trans (.emit rfl)).trans ⟨rfl, rfl⟩

lemma spares_groupsReplayed (e : Engine) (result : Except SyncError GroupReplay) :
    e.Spares (e.groupsReplayed result) := by
  cases result with
  | ok r => exact spares_settleBatch e r
  | error error =>
    have hs : e.Spares (e.emit (.tally (if error.isMismatch then .stateMismatches else .replayFailures))) := .emit rfl
    exact (hs.trans (.emit rfl)).trans (spares_pollAfterBatch _ [])

lemma spares_precomputedReplayed (e : Engine) (waiter : Option WaiterId) (result : Except SyncError GroupReplay) :
    e.Spares (e.precomputedReplayed waiter result) := by
  have ha (e : Engine) (replayed : Bool) : e.Spares (precomputedReplayed.answer waiter e replayed) := by
    cases waiter with
    | none => exact .refl e
    | some w => exact .emit rfl
  cases result with
  | ok r => exact (spares_settleBatch e r).trans (ha _ true)
  | error error =>
    have hs : e.Spares (e.emit (.tally .replayFailures)) := .emit rfl
    exact (hs.trans (.emit rfl)).trans (ha _ false)

lemma spares_fenceCompleted (e : Engine) (ids : List MessageId) (subscribers : List SubscriberId)
    (result : Except SyncError Unit) : e.Spares (e.fenceCompleted ids subscribers result) := by
  have key (e : Engine) : e.Spares (subscribers.foldl (fun e s => e.emit (.answerCompletion s ids)) e) := by
    induction subscribers generalizing e with
    | nil => exact .refl e
    | cons s subscribers ih => exact (Spares.emit rfl).trans (ih _)
  cases result with
  | ok _ => exact key e
  | error error => exact (Spares.emit rfl).trans (key (e.emit (.tally .fenceFailures)))

lemma spares_eventsProcessed (e : Engine) (result : Except SyncError (List Notification)) :
    e.Spares (e.eventsProcessed result) := by
  cases result with
  | ok ns => exact (Tells.publishList _ ns).spares
  | error error => exact .emit rfl

lemma spares_report (e : Engine) (id : OperationId) (r : Report) : e.Spares (e.report id r) := by
  cases r with
  | timerFired => exact spares_timerFired e id
  | _ =>
    simp only [report]
    cases hf : e.finish? id with
    | none => exact .refl e
    | some x =>
      obtain ⟨c, e'⟩ := x
      refine (spares_finish? hf).trans ?_
      first
      | exact spares_differencePolled e' _
      | exact spares_groupsReplayed e' _
      | exact spares_eventsProcessed e' _
      | exact .emit rfl
      | cases c with
        | replayPrecomputed _ waiter => exact spares_precomputedReplayed e' waiter _
        | _ => exact .refl e'
      | cases c with
        | pollCompletion ids subscribers => exact spares_fenceCompleted e' ids subscribers _
        | _ => exact .refl e'

lemma spares_unsubscribeNearby (e : Engine) (token : BagToken) : e.Spares (e.unsubscribe (.nearby token)) := by
  simp only [unsubscribe]
  split <;> exact ⟨rfl, rfl⟩

lemma spares_command (e : Engine) {c : Command} (hc : c.onWebpages = false) : e.Spares (e.command c) := by
  cases c with
  | addGroups groups =>
    simp only [command, addGroups]
    split <;> exact ⟨rfl, rfl⟩
  | subscribeWebpage => cases hc
  | subscribeNearby listener awaited =>
    cases awaited with
    | true => exact ⟨rfl, (Spares.emit (e := e) (x := .subscribed listener (.nearby _)) rfl).subscriptions⟩
    | false =>
      refine Spares.trans ?_ (spares_unsubscribeNearby _ _)
      exact ⟨rfl, rfl⟩
  | unsubscribe key =>
    cases key with
    | webpage => cases hc
    | nearby token => exact spares_unsubscribeNearby e token
  | listOperations => exact .emit rfl
  | _ => exact ⟨rfl, rfl⟩

lemma spares_receive (e : Engine) {i : Input} (hi : i.onWebpages = false) : e.Spares (e.receive i) := by
  cases i with
  | command c => exact spares_command e hi
  | report id r => exact spares_report e id r

lemma spares_step (e : Engine) (i : Input) : (e.receive i).Spares (e.step i) :=
  (spares_startFirst _).trans (spares_refreshUpdating _)

end Engine

end AccountReplica
