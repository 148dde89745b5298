import AccountReplica.Engine.Step
import Mathlib.Tactic.Lemma

/-! What the dispatch of an event set tells, effect by effect, and that nothing else tells any of it. -/

namespace AccountReplica

namespace Publication

def announces : Publication → Bool
  | updating _ | caughtUp _ | notifications _ | fatal _ => false
  | _ => true

end Publication

namespace Effect

def announces : Effect → Bool
  | publish p => p.announces
  | sink _ | sendWebpage .. | sendNearby .. => true
  | _ => false

def tells : Effect → Bool
  | dispatch .. => true
  | x => x.announces

def Launches : Effect → Prop
  | spawn .. | armTimer .. => True
  | _ => False

end Effect

namespace Engine

def listed {α : Type} (p : List α → Publication) (as : List α) : List Effect :=
  if as.isEmpty then [] else [.publish (p as)]

def given {α : Type} (p : α → Publication) (a : Option α) : List Effect :=
  (a.map fun a => .publish (p a)).toList

def announcements (e : Engine) (ev : EventSet) : List Effect :=
  listed .alerts ev.alerts ++ listed .changedPeers ev.changedPeers ++ (sinkCalls ev).map .sink ++ e.deliveries ev ++
    given .maxRead ev.maxRead ++ given .maxQts ev.maxQts ++ listed .readAcks ev.readAcks ++
    given .delayUntil ev.delayUntil ++ given .terms ev.terms ++ given .release ev.release

lemma publishList_eq {α : Type} (e : Engine) (p : List α → Publication) (as : List α) :
    e.publishList p as = { e with effects := e.effects ++ listed p as } := by
  cases as with
  | nil => simp [publishList, listed]
  | cons a as => rfl

lemma publishSome_eq {α : Type} (e : Engine) (p : α → Publication) (a : Option α) :
    e.publishSome p a = { e with effects := e.effects ++ given p a } := by
  cases a with
  | none => simp [publishSome, given]
  | some a => rfl

lemma foldl_emit (e : Engine) (xs : List Effect) : xs.foldl emit e = { e with effects := e.effects ++ xs } := by
  induction xs generalizing e with
  | nil => simp
  | cons x xs ih => simp [ih, emit]

theorem announce_eq (e : Engine) (ev : EventSet) :
    e.announce ev = { e with effects := e.effects ++ e.announcements ev } := by
  have hs (e : Engine) : (sinkCalls ev).foldl (fun e c => e.emit (.sink c)) e =
      { e with effects := e.effects ++ (sinkCalls ev).map .sink } := by
    rw [← foldl_emit, List.foldl_map]
  simp only [announce, publishList_eq, publishSome_eq, hs, foldl_emit, announcements, List.append_assoc]
  rfl

lemma announces_of_mem {e : Engine} {ev : EventSet} {x : Effect} (h : x ∈ e.announcements ev) : x.announces = true := by
  have hl {α : Type} {p : List α → Publication} {as : List α} (hp : ∀ as, (p as).announces = true)
      (h : x ∈ listed p as) : x.announces = true := by
    rw [listed] at h
    split at h
    · cases h
    · obtain rfl := List.mem_singleton.mp h
      exact hp as
  have hg {α : Type} {p : α → Publication} {a : Option α} (hp : ∀ a, (p a).announces = true)
      (h : x ∈ given p a) : x.announces = true := by
    obtain ⟨a, -, rfl⟩ := Option.map_eq_some_iff.mp (Option.mem_toList.mp h)
    exact hp a
  have hd (h : x ∈ e.deliveries ev) : x.announces = true := by
    rcases List.mem_append.mp h with h | h
    · obtain ⟨page, -, h⟩ := List.mem_flatMap.mp h
      obtain ⟨listener, -, rfl⟩ := List.mem_map.mp h
      rfl
    · split at h
      · obtain ⟨listener, -, rfl⟩ := List.mem_map.mp h
        rfl
      · cases h
  have hs (h : x ∈ (sinkCalls ev).map .sink) : x.announces = true := by
    obtain ⟨c, -, rfl⟩ := List.mem_map.mp h
    rfl
  simp only [announcements, List.mem_append] at h
  rcases h with ((((((((h | h) | h) | h) | h) | h) | h) | h) | h) | h
  · exact hl (fun _ => rfl) h
  · exact hl (fun _ => rfl) h
  · exact hs h
  · exact hd h
  · exact hg (fun _ => rfl) h
  · exact hg (fun _ => rfl) h
  · exact hl (fun _ => rfl) h
  · exact hg (fun _ => rfl) h
  · exact hg (fun _ => rfl) h
  · exact hg (fun _ => rfl) h

/-- Nothing was emitted that tells of an event set or launches anything. -/
def Mute (e e' : Engine) : Prop :=
  ∃ xs, e'.effects = e.effects ++ xs ∧ ∀ x ∈ xs, x.tells = false ∧ ¬x.Launches

namespace Mute

variable {e e' e'' : Engine}

lemma of_effects (h : e'.effects = e.effects) : e.Mute e' :=
  ⟨[], by rw [h, List.append_nil], List.forall_mem_nil _⟩

lemma refl (e : Engine) : e.Mute e :=
  of_effects rfl

lemma trans (h : e.Mute e') (h' : e'.Mute e'') : e.Mute e'' := by
  obtain ⟨xs, hx, hxs⟩ := h
  obtain ⟨ys, hy, hys⟩ := h'
  exact ⟨xs ++ ys, by rw [hy, hx, List.append_assoc], List.forall_mem_append.mpr ⟨hxs, hys⟩⟩

lemma emit {x : Effect} (ht : x.tells = false) (hl : ¬x.Launches) : e.Mute (e.emit x) :=
  ⟨[x], rfl, List.forall_mem_singleton.mpr ⟨ht, hl⟩⟩

end Mute

lemma mute_cancelTimer (e : Engine) : e.Mute e.cancelTimer := by
  simp only [cancelTimer]
  split
  · exact .trans (.emit rfl id) (.of_effects rfl)
  · exact .refl e

lemma mute_unsubscribe (e : Engine) (key : SubscriptionKey) : e.Mute (e.unsubscribe key) := by
  refine .of_effects ?_
  cases key with
  | webpage media token =>
    simp only [unsubscribe]
    split <;> rfl
  | nearby token =>
    simp only [unsubscribe]
    split <;> rfl

lemma mute_confirm (e : Engine) (listener : ListenerId) (key : SubscriptionKey) (awaited : Bool) :
    e.Mute (e.confirm listener key awaited) := by
  simp only [confirm]
  split
  · exact .emit rfl id
  · exact mute_unsubscribe e key

lemma mute_command (e : Engine) (c : Command) : e.Mute (e.command c) := by
  cases c with
  | addGroups groups =>
    simp only [command, addGroups]
    split <;> exact .of_effects rfl
  | subscribeWebpage media listener awaited => exact .trans (.of_effects rfl) (mute_confirm _ _ _ _)
  | subscribeNearby listener awaited => exact .trans (.of_effects rfl) (mute_confirm _ _ _ _)
  | unsubscribe key => exact mute_unsubscribe e key
  | listOperations => exact .emit rfl id
  | _ => exact .of_effects rfl

lemma mute_finish? {e e' : Engine} {id : OperationId} {c : Content} (h : e.finish? id = some (c, e')) : e.Mute e' := by
  simp only [finish?] at h
  split at h
  · obtain ⟨⟨op, q⟩, -, he⟩ := Option.map_eq_some_iff.mp h
    cases he
    have hc : e.Mute (if e.timer = some id then e.cancelTimer else e) := by
      split
      · exact mute_cancelTimer e
      · exact .refl e
    exact hc.trans (.of_effects rfl)
  · cases h

lemma mute_flush (e : Engine) (events : EventSet) : e.Mute (e.flush events) := by
  simp only [flush]
  split <;> exact .of_effects rfl

lemma mute_pollAfterBatch (e : Engine) (alerts : List Alert) : e.Mute (e.pollAfterBatch alerts) := by
  simp only [pollAfterBatch]
  split <;> exact .of_effects rfl

lemma mute_settleBatch (e : Engine) (r : GroupReplay) : e.Mute (e.settleBatch r) := by
  simp only [settleBatch]
  refine .trans (.emit rfl id : e.Mute (e.emit (.tally .batchesReplayed))) ?_
  split
  · exact mute_pollAfterBatch _ _
  · split
    · exact (mute_flush _ _).trans (.of_effects rfl)
    · exact mute_flush _ _

lemma mute_reportPollFailure (e : Engine) (error : SyncError) : e.Mute (e.reportPollFailure error) := by
  have h : e.Mute (e.emit (.recordError error)) := .emit rfl id
  simp only [reportPollFailure]
  split
  · exact h.trans (.emit rfl id)
  · exact h

lemma mute_differencePolled (e : Engine) (outcome : PollOutcome) : e.Mute (e.differencePolled outcome) := by
  cases outcome with
  | stateInitialized state => exact .refl e
  | applied events more =>
    cases more with
    | true => exact .of_effects rfl
    | false => exact ((mute_flush e events).trans (.emit rfl id)).trans (.of_effects rfl)
  | mismatch events => exact .trans (.emit rfl id) (.of_effects rfl)
  | tooLong pts events => exact (mute_reportPollFailure _ _).trans (mute_flush _ _)
  | failed events error => exact (Mute.trans (.emit rfl id) (mute_reportPollFailure _ _)).trans (mute_flush _ _)
  | replayFailed error => exact (Mute.trans (.emit rfl id) (.emit rfl id)).trans (.of_effects rfl)

lemma mute_groupsReplayed (e : Engine) (result : Except SyncError GroupReplay) : e.Mute (e.groupsReplayed result) := by
  cases result with
  | ok r => exact mute_settleBatch e r
  | error error => exact (Mute.trans (.emit rfl id) (.emit rfl id)).trans (mute_pollAfterBatch _ _)

lemma mute_precomputedReplayed (e : Engine) (waiter : Option WaiterId) (result : Except SyncError GroupReplay) :
    e.Mute (e.precomputedReplayed waiter result) := by
  have ha (e : Engine) (replayed : Bool) : e.Mute (precomputedReplayed.answer waiter e replayed) := by
    cases waiter with
    | none => exact .refl e
    | some w => exact .emit rfl id
  cases result with
  | ok r => exact (mute_settleBatch e r).trans (ha _ _)
  | error error => exact (Mute.trans (.emit rfl id) (.emit rfl id)).trans (ha _ _)

lemma mute_fenceCompleted (e : Engine) (ids : List MessageId) (subscribers : List SubscriberId)
    (result : Except SyncError Unit) : e.Mute (e.fenceCompleted ids subscribers result) := by
  have hs (e : Engine) : e.Mute (subscribers.foldl (fun e s => e.emit (.answerCompletion s ids)) e) := by
    induction subscribers generalizing e with
    | nil => exact .refl e
    | cons s subscribers ih => exact .trans (.emit rfl id) (ih _)
  cases result with
  | error error => exact .trans (.emit rfl id) (hs _)
  | ok u => exact hs e

lemma mute_eventsProcessed (e : Engine) (result : Except SyncError (List Notification)) :
    e.Mute (e.eventsProcessed result) := by
  cases result with
  | ok ns =>
    cases ns with
    | nil => exact .refl e
    | cons n ns => exact .emit rfl id
  | error error => exact .emit rfl id

lemma mute_timerFired (e : Engine) (id : OperationId) : e.Mute (e.timerFired id) := by
  simp only [timerFired]
  split
  · exact .refl e
  · have h : e.Mute { e with timer := none } := .of_effects rfl
    split
    · next hf =>
      refine (h.trans (mute_finish? hf)).trans ?_
      split <;> exact .of_effects rfl
    · next hf => exact h.trans (mute_finish? hf)
    · exact h

lemma mute_report_of_finish? {e e' : Engine} {id : OperationId} {c : Content} {r : Report}
    (hf : e.finish? id = some (c, e')) (hr : r ≠ .timerFired) : e'.Mute (e.report id r) := by
  cases r with
  | timerFired => exact absurd rfl hr
  | differencePolled outcome =>
    simp only [report, hf]
    exact mute_differencePolled e' outcome
  | groupsReplayed result =>
    simp only [report, hf]
    exact mute_groupsReplayed e' result
  | precomputedReplayed result =>
    cases c with
    | replayPrecomputed state waiter =>
      simp only [report, hf]
      exact mute_precomputedReplayed e' waiter result
    | _ =>
      simp only [report, hf]
      exact .refl e'
  | customFinished =>
    simp only [report, hf]
    exact .emit rfl not_false
  | fenceCompleted result =>
    cases c with
    | pollCompletion ids subscribers =>
      simp only [report, hf]
      exact mute_fenceCompleted e' ids subscribers result
    | _ =>
      simp only [report, hf]
      exact .refl e'
  | eventsProcessed result =>
    simp only [report, hf]
    exact mute_eventsProcessed e' result

lemma mute_receive (e : Engine) (i : Input) : e.Mute (e.receive i) := by
  cases i with
  | command c => exact mute_command e c
  | report id r =>
    by_cases hr : r = .timerFired
    · subst hr
      exact mute_timerFired e id
    · simp only [receive]
      cases hf : e.finish? id with
      | some x => exact (mute_finish? hf).trans (mute_report_of_finish? hf hr)
      | none =>
        cases r with
        | timerFired => exact absurd rfl hr
        | _ =>
          simp only [report, hf]
          exact .refl e

def telling (e : Engine) (x : OperationId × EventSet) : List Effect :=
  .dispatch x.1 x.2 :: e.announcements x.2

structure Emits (e e' : Engine) (told : List (OperationId × EventSet)) (rest : List Effect) : Prop where
  effects : e'.effects = e.effects ++ told.flatMap e.telling ++ rest
  webpages : e'.webpageListeners = e.webpageListeners
  nearby : e'.nearbyListeners = e.nearbyListeners
  mute : ∀ x ∈ rest, x.tells = false

namespace Emits

variable {e e' e'' : Engine} {told told' : List (OperationId × EventSet)} {rest : List Effect}

lemma untold (he : e'.effects = e.effects ++ rest) (hw : e'.webpageListeners = e.webpageListeners)
    (hn : e'.nearbyListeners = e.nearbyListeners) (hm : ∀ x ∈ rest, x.tells = false) : e.Emits e' [] rest :=
  ⟨by rw [he, List.flatMap_nil, List.append_nil], hw, hn, hm⟩

lemma nothing (he : e'.effects = e.effects) (hw : e'.webpageListeners = e.webpageListeners)
    (hn : e'.nearbyListeners = e.nearbyListeners) : e.Emits e' [] [] :=
  untold (by rw [he, List.append_nil]) hw hn (List.forall_mem_nil _)

lemma telling_eq (h : e.Emits e' told rest) : e'.telling = e.telling := by
  funext x
  simp only [telling, announcements, deliveries, webpageListenersOf, h.webpages, h.nearby]

lemma trans (h : e.Emits e' told []) (h' : e'.Emits e'' told' rest) : e.Emits e'' (told ++ told') rest where
  effects := by
    rw [h'.effects, h.effects, h.telling_eq, List.append_nil, List.flatMap_append, List.append_assoc e.effects]
  webpages := h'.webpages.trans h.webpages
  nearby := h'.nearby.trans h.nearby
  mute := h'.mute

end Emits

lemma emits_start (e : Engine) (op : Operation) (rest : List Operation) :
    ∃ told xs, e.Emits (e.start op rest).1 told xs ∧ ((e.start op rest).2 = true → xs = []) := by
  have hspawn (t : Task) : e.Emits ((e.run op rest).emit (.spawn op.id t)) [] [.spawn op.id t] :=
    .untold rfl rfl rfl (List.forall_mem_singleton.mpr rfl)
  rw [start]
  split
  · exact ⟨_, _, hspawn _, nofun⟩
  · next groups timeout _ =>
    cases ht : e.timer with
    | none =>
      have hc : (e.run op rest).cancelTimer = e.run op rest := by simp only [cancelTimer, run, ht]
      refine ⟨[], [.armTimer op.id timeout], ?_, nofun⟩
      rw [hc]
      exact .untold rfl rfl rfl (List.forall_mem_singleton.mpr rfl)
    | some id =>
      have hc : (e.run op rest).cancelTimer = { (e.run op rest).emit (.cancelTimer id) with timer := none } := by
        simp only [cancelTimer, run, ht]
      refine ⟨[], [.cancelTimer id, .armTimer op.id timeout], ?_, nofun⟩
      rw [hc]
      exact .untold (List.append_assoc ..) rfl rfl (by simp [Effect.tells, Effect.announces])
  · exact ⟨_, _, hspawn _, nofun⟩
  · exact ⟨_, _, hspawn _, nofun⟩
  · exact ⟨[], [], .nothing rfl rfl rfl, fun _ => rfl⟩
  · exact ⟨_, _, hspawn _, nofun⟩
  · split
    · refine ⟨[], [.tally .fencesIssued, .spawn op.id .fence], ?_, nofun⟩
      exact .untold (List.append_assoc ..) rfl rfl (by simp [Effect.tells, Effect.announces])
    · exact ⟨[], [], .nothing rfl rfl rfl, fun _ => rfl⟩
  · next events _ =>
    have ha : (((e.run op rest).emit (.dispatch op.id events)).announce events).effects =
        e.effects ++ [(op.id, events)].flatMap e.telling := by
      rw [announce_eq, List.flatMap_singleton]
      exact List.append_assoc ..
    dsimp only
    rw [announce_eq] at ha ⊢
    split
    · exact ⟨[(op.id, events)], [], ⟨ha.trans (List.append_nil _).symm, rfl, rfl, List.forall_mem_nil _⟩, fun _ => rfl⟩
    · refine ⟨[(op.id, events)], [.spawn op.id (.resolveNotifications events.added)], ⟨?_, rfl, rfl, ?_⟩, nofun⟩
      · rw [← ha]
        rfl
      · exact List.forall_mem_singleton.mpr rfl

lemma emits_passes (n : Nat) (e : Engine) : ∃ told xs, e.Emits (passes n e) told xs := by
  induction n generalizing e with
  | zero => exact ⟨[], [], .nothing rfl rfl rfl⟩
  | succ n ih =>
    have hp : ∃ told xs, e.Emits e.pass.1 told xs ∧ (e.pass.2 = true → xs = []) := by
      simp only [pass]
      split
      · exact ⟨[], [], .nothing rfl rfl rfl, fun _ => rfl⟩
      · split
        · exact ⟨[], [], .nothing rfl rfl rfl, fun _ => rfl⟩
        · exact emits_start e _ _
    obtain ⟨told, xs, hx, hn⟩ := hp
    simp only [passes]
    split
    · next e' hs =>
      rw [hs] at hx hn
      obtain rfl := hn rfl
      obtain ⟨told', ys, hy⟩ := ih e'
      exact ⟨told ++ told', ys, hx.trans hy⟩
    · next e' hs =>
      rw [hs] at hx
      exact ⟨told, xs, hx⟩

lemma emits_step (e : Engine) (i : Input) : ∃ told xs, (e.receive i).Emits (e.step i) told xs := by
  obtain ⟨told, xs, hs⟩ := emits_passes (passBound (e.receive i).queue) (e.receive i)
  have hu : ∃ ys, (e.receive i).startFirst.Emits (e.step i) [] ys := by
    simp only [step, refreshUpdating]
    split
    · exact ⟨[], .nothing rfl rfl rfl⟩
    · exact ⟨[.publish (.updating _)], .untold rfl rfl rfl (List.forall_mem_singleton.mpr rfl)⟩
  obtain ⟨ys, hy⟩ := hu
  refine ⟨told, xs ++ ys, ?_, hy.webpages.trans hs.webpages, hy.nearby.trans hs.nearby, ?_⟩
  · rw [← List.append_assoc, ← hs.effects]
    exact hy.effects.trans (congrArg (· ++ ys) (List.append_nil _))
  · exact List.forall_mem_append.mpr ⟨hs.mute, hy.mute⟩

/-- A step tells event sets, each with all that it announces, and nothing of this sort besides. Whatever its input does
at once comes before them, and what it launches comes behind. -/
theorem told_step (e : Engine) (i : Input) :
    ∃ (before : List Effect) (told : List (OperationId × EventSet)) (after : List Effect),
      (e.step i).effects = e.effects ++ before ++ told.flatMap (e.step i).telling ++ after ∧
      (∀ x ∈ before, x.tells = false ∧ ¬x.Launches) ∧ ∀ x ∈ after, x.tells = false := by
  obtain ⟨before, hb, hm⟩ := mute_receive e i
  obtain ⟨told, after, hs⟩ := emits_step e i
  exact ⟨before, told, after, by rw [hs.telling_eq, ← hb, hs.effects], hm, hs.mute⟩

end Engine

end AccountReplica
