import AccountReplica.Proofs.Engine.Command
import AccountReplica.Proofs.Replica.Sound

/-! Which values the engine gives to the cells that callers read, and when it answers those who wait for a
replay. -/

namespace AccountReplica

inductive Mark
  | updating (value : Bool)
  | caughtUp (times : Nat)
  | replayed (waiter : WaiterId) (success : Bool)

def Effect.mark? : Effect → Option Mark
  | publish (.updating value) => some (.updating value)
  | publish (.caughtUp times) => some (.caughtUp times)
  | answerPrecomputed waiter success => some (.replayed waiter success)
  | _ => none

def marks (xs : List Effect) : List Mark :=
  xs.filterMap Effect.mark?

lemma filterMap_marks {α : Type} {f : Effect → Option α} {g : Mark → Option α} (h : ∀ x, x.mark?.bind g = f x)
    (xs : List Effect) : (marks xs).filterMap g = xs.filterMap f := by
  rw [marks, List.filterMap_filterMap]
  exact congrArg (List.filterMap · xs) (funext h)

lemma marks_append (xs ys : List Effect) : marks (xs ++ ys) = marks xs ++ marks ys :=
  List.filterMap_append

namespace Engine

structure Unmarked (e e' : Engine) : Prop where
  marks : marks e'.effects = marks e.effects
  updating : e'.updating = e.updating
  caughtUp : e'.caughtUp = e.caughtUp

variable {e e' e'' : Engine} {op : Operation} {rest : List Operation}

namespace Unmarked

lemma refl (e : Engine) : e.Unmarked e :=
  ⟨rfl, rfl, rfl⟩

lemma trans (h : e.Unmarked e') (h' : e'.Unmarked e'') : e.Unmarked e'' :=
  ⟨h'.marks.trans h.marks, h'.updating.trans h.updating, h'.caughtUp.trans h.caughtUp⟩

lemma emit {x : Effect} (hx : x.mark? = none) : e.Unmarked (e.emit x) where
  marks := by simp [Engine.emit, AccountReplica.marks, hx]
  updating := rfl
  caughtUp := rfl

lemma foldl {α : Type} {f : Engine → α → Engine} {as : List α} (hf : ∀ (e : Engine), ∀ a ∈ as, e.Unmarked (f e a)) :
    e.Unmarked (as.foldl f e) := by
  induction as generalizing e with
  | nil => exact refl e
  | cons a as ih =>
    exact (hf e a List.mem_cons_self).trans (ih fun e b hb => hf e b (List.mem_cons_of_mem a hb))

lemma publishList {α : Type} {p : List α → Publication} (hp : ∀ as, (Effect.publish (p as)).mark? = none)
    (as : List α) : e.Unmarked (e.publishList p as) := by
  cases as with
  | nil => exact refl e
  | cons a as => exact emit (hp _)

end Unmarked

lemma unmarked_announce (e : Engine) (ev : EventSet) : e.Unmarked (e.announce ev) := by
  have hn : AccountReplica.marks (e.announcements ev) = [] := by
    refine List.filterMap_eq_nil_iff.mpr fun x hx => ?_
    have ha := announces_of_mem hx
    cases x with
    | publish p => cases p <;> first | rfl | cases ha
    | _ => first | rfl | cases ha
  rw [announce_eq]
  exact ⟨by rw [marks_append, hn, List.append_nil], rfl, rfl⟩

lemma unmarked_cancelTimer (e : Engine) : e.Unmarked e.cancelTimer := by
  simp only [cancelTimer]
  split
  · exact ⟨(Unmarked.emit (e := e) rfl).marks, rfl, rfl⟩
  · exact .refl e

lemma unmarked_start (e : Engine) (op : Operation) (rest : List Operation) :
    e.Unmarked (e.start op rest).1 := by
  have hrun : e.Unmarked (e.run op rest) := ⟨rfl, rfl, rfl⟩
  have hdrop (e : Engine) : e.Unmarked (e.drop rest) := ⟨rfl, rfl, rfl⟩
  rw [start]
  split
  · exact hrun.trans (.emit rfl)
  · have hc := hrun.trans (unmarked_cancelTimer _)
    exact hc.trans ⟨(Unmarked.emit rfl).marks, rfl, rfl⟩
  · exact hrun.trans (.emit rfl)
  · exact hrun.trans (.emit rfl)
  · exact hdrop e
  · exact hrun.trans (.emit rfl)
  · split
    · exact (hrun.trans (.emit rfl)).trans (.emit rfl)
    · exact ⟨rfl, rfl, rfl⟩
  · next ev _ =>
    have ha : e.Unmarked (((e.run op rest).emit (.dispatch op.id ev)).announce ev) :=
      (hrun.trans (.emit rfl)).trans (unmarked_announce _ ev)
    dsimp only
    split
    · exact ha.trans (hdrop _)
    · exact ha.trans ⟨(Unmarked.emit (x := .spawn op.id _) rfl).marks, rfl, rfl⟩

lemma unmarked_startFirst (e : Engine) : e.Unmarked e.startFirst :=
  startFirst_keeps .refl .trans unmarked_start e

lemma unmarked_unsubscribe (e : Engine) (key : SubscriptionKey) : e.Unmarked (e.unsubscribe key) := by
  cases key <;> simp only [unsubscribe] <;> split <;> exact ⟨rfl, rfl, rfl⟩

lemma unmarked_confirm (e : Engine) (listener : ListenerId) (key : SubscriptionKey) (awaited : Bool) :
    e.Unmarked (e.confirm listener key awaited) := by
  cases awaited with
  | true => exact .emit rfl
  | false => exact unmarked_unsubscribe e key

lemma unmarked_command (e : Engine) (c : Command) : e.Unmarked (e.command c) := by
  cases c with
  | addGroups groups =>
    simp only [command, addGroups]
    split <;> exact ⟨rfl, rfl, rfl⟩
  | subscribeWebpage media listener awaited | subscribeNearby listener awaited =>
    simp only [command]
    refine .trans ?_ (unmarked_confirm _ _ _ awaited)
    exact ⟨rfl, rfl, rfl⟩
  | unsubscribe key => exact unmarked_unsubscribe e key
  | listOperations => exact .emit rfl
  | _ => exact ⟨rfl, rfl, rfl⟩

lemma unmarked_pollAfterBatch (e : Engine) (alerts : List Alert) : e.Unmarked (e.pollAfterBatch alerts) := by
  simp only [pollAfterBatch]
  split <;> exact ⟨rfl, rfl, rfl⟩

lemma unmarked_flush (e : Engine) (ev : EventSet) : e.Unmarked (e.flush ev) := by
  simp only [flush]
  split <;> exact ⟨rfl, rfl, rfl⟩

lemma unmarked_settleBatch (e : Engine) (g : GroupReplay) : e.Unmarked (e.settleBatch g) := by
  have hs : e.Unmarked (e.emit (.tally .batchesReplayed)) := .emit rfl
  simp only [settleBatch]
  split
  · exact hs.trans (unmarked_pollAfterBatch _ _)
  · have hf := hs.trans (unmarked_flush _ g.events)
    split
    · exact hf.trans ⟨rfl, rfl, rfl⟩
    · exact hf

lemma unmarked_groupsReplayed (e : Engine) (result : Except SyncError GroupReplay) :
    e.Unmarked (e.groupsReplayed result) := by
  cases result with
  | ok g => exact unmarked_settleBatch e g
  | error error =>
    have hs : e.Unmarked (e.emit (.tally (if error.isMismatch then .stateMismatches else .replayFailures))) := .emit rfl
    exact (hs.trans (.emit rfl)).trans (unmarked_pollAfterBatch _ [])

lemma unmarked_fenceCompleted (e : Engine) (ids : List MessageId) (subscribers : List SubscriberId)
    (result : Except SyncError Unit) : e.Unmarked (e.fenceCompleted ids subscribers result) := by
  have key (e : Engine) : e.Unmarked (subscribers.foldl (fun e s => e.emit (.answerCompletion s ids)) e) :=
    .foldl fun _ _ _ => .emit rfl
  cases result with
  | ok _ => exact key e
  | error error => exact (Unmarked.emit rfl).trans (key (e.emit (.tally .fenceFailures)))

lemma unmarked_eventsProcessed (e : Engine) (result : Except SyncError (List Notification)) :
    e.Unmarked (e.eventsProcessed result) := by
  cases result with
  | ok ns => exact .publishList (fun _ => rfl) ns
  | error error => exact .emit rfl

lemma unmarked_reportPollFailure (e : Engine) (error : SyncError) : e.Unmarked (e.reportPollFailure error) := by
  have hs : e.Unmarked (e.emit (.recordError error)) := .emit rfl
  simp only [reportPollFailure]
  split
  · exact hs.trans (.emit rfl)
  · exact hs

end Engine

def PollOutcome.catchesUp : PollOutcome → Bool
  | applied _ false => true
  | _ => false

def Content.waiter? : Content → Option WaiterId
  | replayPrecomputed _ waiter => waiter
  | _ => none

namespace Engine

lemma unmarked_differencePolled (e : Engine) {outcome : PollOutcome} (h : outcome.catchesUp = false) :
    e.Unmarked (e.differencePolled outcome) := by
  cases outcome with
  | stateInitialized state => exact .refl e
  | applied ev more =>
    cases more with
    | true => exact ⟨rfl, rfl, rfl⟩
    | false => cases h
  | mismatch ev => exact ⟨(Unmarked.emit (e := e) (x := .tally .stateMismatches) rfl).marks, rfl, rfl⟩
  | tooLong pts ev => exact (unmarked_reportPollFailure e _).trans (unmarked_flush _ ev)
  | failed ev error =>
    have hs : e.Unmarked (e.emit (.tally .replayFailures)) := .emit rfl
    exact (hs.trans (unmarked_reportPollFailure _ error)).trans (unmarked_flush _ ev)
  | replayFailed error =>
    have hs : e.Unmarked (e.emit (.tally .replayFailures)) := .emit rfl
    exact (hs.trans (.emit rfl)).trans ⟨rfl, rfl, rfl⟩

end Engine

namespace Report

def catchesUp : Report → Bool
  | differencePolled outcome => outcome.catchesUp
  | _ => false

def marks : Report → Content → Nat → List Mark
  | differencePolled outcome, _, times => if outcome.catchesUp then [.caughtUp (times + 1)] else []
  | precomputedReplayed result, c, _ => c.waiter?.toList.map (.replayed · result.isOk)
  | _, _, _ => []

end Report

namespace Engine

variable {e e' e'' : Engine} {op : Operation} {rest : List Operation}

structure Marked (e e' : Engine) (ms : List Mark) (catchesUp : Bool) : Prop where
  marks : marks e'.effects = marks e.effects ++ ms
  updating : e'.updating = e.updating
  caughtUp : e'.caughtUp = e.caughtUp + if catchesUp then 1 else 0

lemma Unmarked.marked (h : e.Unmarked e') : e.Marked e' [] false :=
  ⟨h.marks.trans (List.append_nil _).symm, h.updating, h.caughtUp⟩

lemma Marked.trans {ms : List Mark} {catchesUp : Bool} (h : e.Marked e' ms catchesUp) (h' : e'.Unmarked e'') :
    e.Marked e'' ms catchesUp :=
  ⟨h'.marks.trans h.marks, h'.updating.trans h.updating, h'.caughtUp.trans h.caughtUp⟩

lemma marked_differencePolled (e : Engine) (outcome : PollOutcome) (c : Content) :
    e.Marked (e.differencePolled outcome) ((Report.differencePolled outcome).marks c e.caughtUp) outcome.catchesUp := by
  cases h : outcome.catchesUp with
  | false =>
    simp only [Report.marks, h]
    exact (unmarked_differencePolled e h).marked
  | true =>
    obtain ⟨ev, rfl⟩ : ∃ ev, outcome = .applied ev false := by
      cases outcome with
      | applied ev more => cases more <;> first | exact ⟨ev, rfl⟩ | cases h
      | _ => cases h
    obtain ⟨hm, hu, hc⟩ := unmarked_flush e ev
    refine ⟨?_, hu, congrArg (· + 1) hc⟩
    simp only [differencePolled, publish, emit, marks_append, hm, hc]
    rfl

lemma marked_precomputedReplayed (e : Engine) (c : Content) (result : Except SyncError GroupReplay) :
    e.Marked (e.precomputedReplayed c.waiter? result) ((Report.precomputedReplayed result).marks c e.caughtUp)
      false := by
  have ha {e e' : Engine} (h : e.Unmarked e') (success : Bool) :
      e.Marked (Engine.precomputedReplayed.answer c.waiter? e' success)
        (c.waiter?.toList.map (.replayed · success)) false := by
    cases c.waiter? with
    | none => exact h.marked
    | some w => exact ⟨by simp [precomputedReplayed.answer, emit, marks_append, h.marks]; rfl, h.updating, h.caughtUp⟩
  cases result with
  | ok g => exact ha (unmarked_settleBatch e g) true
  | error error =>
    have hs : e.Unmarked (e.emit (.tally .replayFailures)) := .emit rfl
    exact ha (hs.trans (.emit rfl)) false

lemma Concludes.marked {c : Content} {r : Report} (h : e.Concludes c r e') :
    e.Marked e' (r.marks c e.caughtUp) r.catchesUp := by
  cases h with
  | pushed | stalled => exact Unmarked.marked ⟨rfl, rfl, rfl⟩
  | polled ev outcome => exact marked_differencePolled e outcome _
  | replayed groups result => exact (unmarked_groupsReplayed e result).marked
  | precomputed state waiter result => exact marked_precomputedReplayed e (.replayPrecomputed state waiter) result
  | finished => exact Unmarked.marked (.emit rfl)
  | drained ids subscribers result => exact (unmarked_fenceCompleted e ids subscribers result).marked
  | processed ev result => exact (unmarked_eventsProcessed e result).marked

lemma marked_report {r : Report} (hs : e.Settled) (hq : e.queue.operations = op :: rest)
    (hk : r.kind = op.content.kind) :
    e.Marked (e.report op.id r) (r.marks op.content e.caughtUp) r.catchesUp := by
  obtain ⟨hr, -, ht⟩ := hs.head hq
  obtain ⟨hm, hu, hc⟩ := (concludes_report hq hr ht hk).marked
  exact ⟨hm, hu, hc⟩

end Engine

def Input.catchesUp : Input → Bool
  | command _ => false
  | report _ r => r.catchesUp

namespace Engine

variable {e : Engine} {i : Input}

def marks (e : Engine) : Input → List Mark
  | .command _ => []
  | .report _ r => e.front.elim [] (r.marks · e.caughtUp)

lemma marked_receive (hs : e.Settled) (hd : e.Due i) : e.Marked (e.receive i) (e.marks i) i.catchesUp := by
  cases hd with
  | command c => exact (unmarked_command e c).marked
  | report op rest r hq hk =>
    simp only [marks, front_cons hq, Option.elim_some]
    exact marked_report hs hq hk

lemma updating_refreshUpdating (e : Engine) : e.refreshUpdating.updating = e.queue.isUpdating := by
  simp only [refreshUpdating]
  split
  · next h => exact h.symm
  · rfl

lemma caughtUp_refreshUpdating (e : Engine) : e.refreshUpdating.caughtUp = e.caughtUp := by
  simp only [refreshUpdating]
  split <;> rfl

lemma marks_refreshUpdating (e : Engine) :
    AccountReplica.marks e.refreshUpdating.effects = AccountReplica.marks e.effects ++
      if e.queue.isUpdating = e.updating then [] else [.updating e.queue.isUpdating] := by
  simp only [refreshUpdating]
  split
  · exact (List.append_nil _).symm
  · exact marks_append _ _

/-- The flag is published when it has changed, after all else that the turn marks. -/
structure MarkTurn (e : Engine) (i : Input) : Prop where
  marks : AccountReplica.marks (e.step i).effects =
    e.marks i ++ if (e.step i).updating = e.updating then [] else [.updating (e.step i).updating]
  updating : (e.step i).updating = (e.step i).queue.isUpdating
  caughtUp : (e.step i).caughtUp = e.caughtUp + if i.catchesUp then 1 else 0

theorem markTurn_of_due (hs : e.Settled) (he : e.effects = []) (hd : e.Due i) : e.MarkTurn i := by
  obtain ⟨hm, hu, hc⟩ := (marked_receive hs hd).trans (unmarked_startFirst (e.receive i))
  rw [he] at hm
  have hupd : (e.step i).updating = (e.receive i).startFirst.queue.isUpdating := updating_refreshUpdating _
  have hq : (e.step i).queue = (e.receive i).startFirst.queue := (silent_refreshUpdating _).queue
  refine ⟨?_, by rw [hupd, hq], (caughtUp_refreshUpdating _).trans hc⟩
  rw [hupd, step, marks_refreshUpdating, hm, hu]
  rfl

end Engine

end AccountReplica
