import AccountReplica.Proofs.Replica.Moves
import AccountReplica.Proofs.Scenario.Scene

/-! A scripted world does nothing that a replica could not do: after any steps its engine, its storage and
what is under way are those of some run. -/

namespace AccountReplica

/-- Of what the engine has left under way, some may be lost together with it. -/
structure Scene.Follows (s : Scene) (r : Replica) : Prop where
  engine : ∀ e ∈ s.engine, e = r.engine
  storage : s.storage = r.storage
  storing : s.storing.Timeless
  underway : ∃ lost, s.underway + s.storing + lost = outlines r.underway ∧ (s.engine.isSome → lost = 0)
  idle : r.engine.effects = []

/-- A run that starts here leads to what the scene follows. -/
def Scene.Arises (start : Replica) (s : Scene) : Prop :=
  ∃ moves, s.Follows (start.run moves)

variable {start : Replica}

namespace Scene.Arises

variable {s : Scene}

lemma proceed (c : Circumstances) {op : OperationId} {x : Errand}
    (h : (s.and {(op, x.outline)}).Arises start) :
    ({ s with storage := (x.proceed c s.storage).storage }.and
      {(op, (x.proceed c s.storage).errand.outline)}).Arises start := by
  obtain ⟨moves, h⟩ := h
  obtain ⟨lost, hl, hs⟩ := h.underway
  have ho : outlines (start.run moves).underway =
      {(op, x.outline)} + (s.underway + s.storing + lost) := by
    rw [← hl, Scene.and]
    ac_rfl
  obtain ⟨n, y, hn, hy, -, hset⟩ := exists_outline ho
  have hp : y.proceed c (start.run moves).storage = x.proceed c s.storage := by
    rw [← h.storage, ← y.proceed_outline, hy, x.proceed_outline]
    rfl
  refine ⟨moves ++ [.proceed n c], ?_⟩
  rw [Replica.run_concat]
  simp only [Replica.move, hn, hp]
  refine ⟨h.engine, rfl, h.storing, ⟨lost, ?_, hs⟩, h.idle⟩
  rw [hset, Scene.and]
  ac_rfl

lemma interfere (h : s.Arises start) {t : SharedStorage} (ht : s.storage.Known → t.Known) :
    ({ s with storage := t }).Arises start := by
  obtain ⟨moves, h⟩ := h
  refine ⟨moves ++ [.interfere t], ?_⟩
  rw [h.storage] at ht
  rw [Replica.run_concat, Replica.move, if_pos ht]
  exact ⟨h.engine, rfl, h.storing, h.underway, h.idle⟩

lemma lose (h : s.Arises start) {xs : Underway} (hx : xs ≤ s.underway) :
    ({ s with engine := none, underway := xs }).Arises start := by
  obtain ⟨moves, h⟩ := h
  obtain ⟨gone, hg⟩ := Multiset.le_iff_exists_add.mp hx
  obtain ⟨lost, hl, -⟩ := h.underway
  refine ⟨moves, by simp, h.storage, h.storing, ⟨gone + lost, ?_, by simp⟩, h.idle⟩
  show xs + s.storing + (gone + lost) = _
  rw [← hl, hg]
  ac_rfl

lemma feed {e : Engine} {xs : Underway} {i : Input}
    (h : (Scene.mk (some e) s.storage s.storing (xs + i.errands)).Arises start) :
    (Scene.mk (some (e.step i).takeEffects.2) s.storage s.storing
      ((e.step i).effects.foldl Underway.perform xs)).Arises start := by
  obtain ⟨moves, h⟩ := h
  obtain ⟨lost, hl, hs⟩ := h.underway
  obtain rfl := hs rfl
  have he : e = (start.run moves).engine := h.engine e rfl
  cases i with
  | command c =>
    refine ⟨moves ++ [.command c], ?_⟩
    rw [Replica.run_concat, Replica.move, Replica.feed, ← he]
    refine ⟨by simp, h.storage, h.storing, ⟨0, ?_, fun _ => rfl⟩, rfl⟩
    rw [Engine.takeEffects, outlines_foldl_perform, ← hl, ← Underway.foldl_perform_add h.storing]
    simp [Input.errands]
  | report id r =>
    have ho : outlines (start.run moves).underway =
        {(id, .report r)} + (xs + s.storing) := by
      rw [← hl]
      simp only [Input.errands, add_zero]
      ac_rfl
    obtain ⟨n, y, hn, hy, herase, -⟩ := exists_outline ho
    obtain rfl : y = .report r := by
      cases y with
      | report r' => exact hy
      | task t => cases t <;> cases hy
      | asked events question => cases question <;> cases hy
      | timer => cases hy
    refine ⟨moves ++ [.deliver n], ?_⟩
    rw [Replica.run_concat]
    simp only [Replica.move, hn, Replica.feed, ← he]
    refine ⟨by simp, h.storage, h.storing, ⟨0, ?_, fun _ => rfl⟩, rfl⟩
    rw [Engine.takeEffects, outlines_foldl_perform, herase, ← Underway.foldl_perform_add h.storing, add_zero]

lemma store {xs : Underway} (h : (s.and xs).Arises start) (hx : xs.Timeless) :
    ({ s with storing := s.storing + xs }).Arises start := by
  obtain ⟨moves, h⟩ := h
  obtain ⟨lost, hl, hs⟩ := h.underway
  refine ⟨moves, h.engine, h.storage, fun x hm => ?_, ⟨lost, ?_, hs⟩, h.idle⟩
  · exact (Multiset.mem_add.mp hm).elim (h.storing x) (hx x)
  · show s.underway + (s.storing + xs) + lost = _
    rw [← hl]
    show _ = s.underway + xs + s.storing + lost
    ac_rfl

lemma fetch {xs ys : Underway} (h : s.Arises start) (hx : s.storing = xs + ys) :
    ({ s with storing := ys }.and xs).Arises start := by
  obtain ⟨moves, h⟩ := h
  obtain ⟨lost, hl, hs⟩ := h.underway
  refine ⟨moves, h.engine, h.storage, fun x hm => ?_, ⟨lost, ?_, hs⟩, h.idle⟩
  · exact h.storing x (hx ▸ Multiset.mem_add.mpr (Or.inr hm))
  · show s.underway + xs + ys + lost = _
    rw [← hl, hx]
    ac_rfl

lemma effects (h : s.Arises start) {e : Engine} (he : s.engine = some e) : e.effects = [] := by
  obtain ⟨moves, h⟩ := h
  rw [h.engine e he]
  exact h.idle

end Scene.Arises

namespace World

variable {w w' : World}

lemma underway_loseEngine (w : World) : w.loseEngine.underway = w.underway.filter (·.2.isTimer = false) :=
  underway_dropFlights _ (fun f => by rw [f.isTimer_errand]) fun _ _ => rfl

lemma underway_loseEngine_le (w : World) : w.loseEngine.underway ≤ w.underway := by
  rw [underway_loseEngine]
  exact Multiset.filter_le ..

lemma scene_perform (w : World) (x : Effect) (hx : ∀ c, x ≠ .sink c) :
    (w.perform x).scene = { w.scene with underway := w.scene.underway.perform x } := by
  cases x with
  | sink c => exact absurd rfl (hx c)
  | spawn id task => exact scene_enqueue w ⟨id, .begin task⟩
  | armTimer id delay => exact scene_enqueue w ⟨id, .timer delay⟩
  | cancelTimer id =>
    refine Scene.ext rfl rfl rfl (underway_dropFlights w (fun f => ?_) fun op r => ?_)
    · rw [f.isTimer_errand]
      cases f.isTimer <;> simp [Flight.errand]
    · simp [Errand.isTimer]
  | _ => rfl

lemma scene_sinkCall (w : World) (c : SinkCall) :
    (w.sinkCall c).scene = w.scene ∨ (∃ i, (w.sinkCall c).scene = (w.interfere i).scene) ∨
      (w.sinkCall c).scene = w.loseEngine.scene := by
  cases hr : w.recording with
  | false => exact Or.inl (by rw [sinkCall, hr]; rfl)
  | true =>
    simp only [sinkCall, hr, if_true]
    split
    · exact Or.inr (Or.inl ⟨_, rfl⟩)
    · exact Or.inr (Or.inr rfl)
    · exact Or.inl rfl

lemma performAll_stopped (xs : List Effect) (h : w.scene.engine = none) : performAll xs w = w := by
  cases xs with
  | nil => rfl
  | cons x xs => rw [performAll, show w.engine = none from h, Option.isSome_none, if_neg Bool.false_ne_true]

/-- The replica performs the effects of a turn all at once, so it is ahead of the world until the last
one is performed. -/
lemma arises_performAll {xs : List Effect} {rest : Underway} (he : w.scene.engine.isSome)
    (h : ({ w.scene with underway := xs.foldl Underway.perform w.scene.underway + rest }).Arises start) :
    ((performAll xs w).scene.and rest).Arises start := by
  induction xs generalizing w with
  | nil => exact h
  | cons x xs ih =>
    rw [performAll, if_pos (show w.engine.isSome from he)]
    by_cases hx : ∃ c, x = .sink c
    · obtain ⟨c, rfl⟩ := hx
      rcases w.scene_sinkCall c with hs | ⟨i, hs⟩ | hs
      · refine ih ?_ ?_ <;> rw [perform, hs]
        · exact he
        · exact h
      · refine ih ?_ ?_ <;> rw [perform, hs]
        · exact he
        · exact h.interfere (Account.Known.interfere i)
      · have hn : (w.perform (.sink c)).scene.engine = none := by rw [perform, hs]; rfl
        rw [performAll_stopped xs hn, perform, hs]
        have ht : w.loseEngine.underway.Timeless := by
          rw [underway_loseEngine]
          exact fun x hx => (Multiset.mem_filter.mp hx).2
        refine h.lose (add_le_add_left ?_ rest)
        exact Underway.timeless_le_foldl_perform _ ht w.underway_loseEngine_le
    · have hs := w.scene_perform x fun c hc => hx ⟨c, hc⟩
      refine ih ?_ ?_ <;> rw [hs]
      · exact he
      · exact h

lemma arises_feed {i : Input} {rest : Underway} (hr : rest.Timeless)
    (h : (w.scene.and (i.errands + rest)).Arises start) :
    ((w.feed i).scene.and rest).Arises start := by
  cases he : w.engine with
  | none =>
    have hs : w.scene.and rest =
        { w.scene.and (i.errands + rest) with engine := none, underway := w.underway + rest } := by
      rw [scene, he]
      rfl
    have hl : w.underway + rest ≤ w.underway + (i.errands + rest) :=
      add_le_add_right (Multiset.le_add_left ..) _
    rw [show w.feed i = w by rw [feed, he], hs]
    exact h.lose hl
  | some e =>
    have hu : w.underway + (i.errands + rest) = w.underway + rest + i.errands := by ac_rfl
    rw [Scene.and, scene, he] at h
    have hf := Scene.Arises.feed (s := w.scene) (hu ▸ h)
    rw [Underway.foldl_perform_add hr] at hf
    rw [feed, he]
    exact arises_performAll rfl hf

lemma timeless_errands (inputs : List Input) : (inputs.map Input.errands).sum.Timeless := by
  induction inputs with
  | nil => simp [Underway.Timeless]
  | cons i inputs ih =>
    intro x hx
    rcases Multiset.mem_add.mp hx with hx | hx
    · exact i.timeless_errands x hx
    · exact ih x hx

lemma arises_feeds {inputs : List Input} (h : (w.scene.and (inputs.map Input.errands).sum).Arises start) :
    (inputs.foldl feed w).scene.Arises start := by
  induction inputs generalizing w with
  | nil => simpa using h
  | cons i inputs ih => exact ih (arises_feed (timeless_errands inputs) h)

lemma arises_loseEngine (h : w.scene.Arises start) : w.loseEngine.scene.Arises start :=
  h.lose w.underway_loseEngine_le

lemma arises_stopEngine (h : w.scene.Arises start) : w.stopEngine.scene.Arises start := by
  cases he : w.engine with
  | none =>
    rw [stopEngine, he]
    exact h
  | some e =>
    have hx : e.effects = [] := h.effects he
    rw [stopEngine, he]
    cases ht : e.timer with
    | none =>
      have hs : e.stop.takeEffects.1 = [] := by simp [Engine.stop, Engine.takeEffects, Engine.cancelTimer, ht, hx]
      simp only [hs]
      exact arises_loseEngine h
    | some id =>
      have hs : e.stop.takeEffects.1 = [.cancelTimer id] := by
        simp [Engine.stop, Engine.takeEffects, Engine.cancelTimer, Engine.emit, ht, hx]
      have hp : performAll [.cancelTimer id] w = w.perform (.cancelTimer id) := by
        simp [performAll, he]
      have hu : (w.perform (.cancelTimer id)).underway = w.underway.cancel id :=
        congrArg Scene.underway (w.scene_perform (.cancelTimer id) (by simp))
      simp only [hs, hp]
      refine h.lose ((underway_loseEngine_le _).trans ?_)
      rw [hu]
      exact Multiset.filter_le ..

lemma sum_errands (reports : List (OperationId × Report)) (commands : List Command) :
    ((reports.map (fun (op, r) => Input.report op r) ++ commands.map Input.command).map Input.errands).sum =
      reported reports := by
  induction reports with
  | nil =>
    induction commands with
    | nil => rfl
    | cons c commands ih => exact (zero_add _).trans ih
  | cons x reports ih =>
    rw [List.map_cons, List.cons_append, List.map_cons, List.sum_cons, ih]
    rfl

lemma arises_engineTurn (h : w.scene.Arises start) : w.engineTurn.scene.Arises start := by
  have hw (mail : List Command) : w.scene =
      ({ w with reports := w.reports.drop turnSize, mail }).scene.and (reported (w.reports.take turnSize)) := by
    refine Scene.ext rfl rfl rfl ?_
    have hr : reported w.reports = reported (w.reports.drop turnSize) + reported (w.reports.take turnSize) := by
      rw [add_comm, ← reported_append, List.take_append_drop]
    rw [scene, underway, hr, ← add_assoc]
    rfl
  have hf (mail commands : List Command) :
      (((w.reports.take turnSize).map (fun (op, r) => Input.report op r) ++ commands.map Input.command).foldl feed
        { w with reports := w.reports.drop turnSize, mail }).scene.Arises start := by
    refine arises_feeds ?_
    rw [sum_errands, ← hw mail]
    exact h
  have hend (full : Prop) [Decidable full] {w : World} (h : w.scene.Arises start) :
      (if full then ({ w with listening := false }).pause .engine
        else if w.handle then { w with listening := true }
        else ({ w with listening := true }).stopEngine).scene.Arises start := by
    split
    · exact h
    · split
      · exact h
      · exact arises_stopEngine (w := { w with listening := true }) h
  exact hend _ (hf _ _)

lemma arises_forwarderTurn (h : w.scene.Arises start) : w.forwarderTurn.scene.Arises start := by
  simp only [forwarderTurn]
  split
  · split
    · rw [scene_pause, scene_post]
      exact h
    · rw [scene_post]
      exact h
  · exact h

def circumstances (w : World) : Circumstances :=
  ⟨w.limit, w.slow, today, .ok .zero, .ok (.empty 0 0), .ok ()⟩

def answering (w : World) : Answer → Circumstances
  | .state _ answer => { w.circumstances with state := answer }
  | .difference _ _ answer => { w.circumstances with difference := answer }
  | .fence answer => { w.circumstances with fence := answer }

lemma arises_takeAnswer {op : OperationId} {answer : Answer}
    (h : (w.scene.and {(op, answer.errand)}).Arises start) :
    (w.takeAnswer op answer).scene.Arises start := by
  rw [← answer.outline_errand] at h
  have hp := h.proceed (w.answering answer)
  cases answer <;> (rw [takeAnswer, scene_report]; exact hp)

lemma arises_store {f : Flight} (h : (w.scene.and (carried [f])).Arises start)
    (hf : f.isTimer = false) : ({ w with storing := w.storing ++ [f] }).scene.Arises start := by
  have hs : ({ w with storing := w.storing ++ [f] }).scene =
      { w.scene with storing := w.scene.storing + carried [f] } :=
    Scene.ext rfl rfl (carried_append ..) rfl
  rw [hs]
  refine h.store fun x hx => ?_
  obtain rfl := Multiset.mem_singleton.mp hx
  rw [f.isTimer_errand, hf]

lemma arises_receive {op : OperationId} {latency : Nat} {answer : Answer}
    (h : (w.scene.and {(op, answer.errand)}).Arises start) :
    (w.receive op latency answer).scene.Arises start := by
  rw [receive]
  split
  · rw [scene_hold]
    exact h
  · split
    · exact arises_store h (by cases answer <;> rfl)
    · exact arises_takeAnswer h

lemma arises_request {op : OperationId} {answer : Answer}
    (h : (w.scene.and {(op, answer.errand)}).Arises start) :
    (w.request op answer).scene.Arises start := by
  simp only [request]
  split
  · exact arises_receive h
  · split
    · rw [scene_hold]
      exact h
    · exact arises_receive h

lemma arises_interfere (i : Interference) {xs : Underway}
    (h : (w.scene.and xs).Arises start) : ((w.interfere i).scene.and xs).Arises start :=
  h.interfere (Account.Known.interfere i)

lemma arises_askServer {op : OperationId} {events : EventSet} {question : DifferencePoll.Question}
    (h : (w.scene.and {(op, (Errand.asked events question).outline)}).Arises start) :
    (w.askServer op events question).scene.Arises start := by
  cases question with
  | currentState => exact arises_request h
  | difference request =>
    rw [askServer]
    refine arises_request ?_
    cases w.network.hook with
    | none => exact h
    | some i => exact arises_interfere i h

lemma arises_beginTask {op : OperationId} {task : Task}
    (h : (w.scene.and {(op, (Errand.task task).outline)}).Arises start) :
    (w.beginTask op task).scene.Arises start := by
  cases task with
  | pollDifference events =>
    have hp := h.proceed w.circumstances
    simp only [Errand.proceed] at hp
    simp only [beginTask, settleTask]
    cases hr : (DifferencePoll.ask w.limit events w.storage).result with
    | error outcome =>
      simp only [show (DifferencePoll.ask w.circumstances.limit events w.scene.storage).result = _ from hr] at hp
      simp only [scene_report]
      exact hp
    | ok question =>
      simp only [show (DifferencePoll.ask w.circumstances.limit events w.scene.storage).result = _ from hr] at hp
      exact arises_askServer hp
  | replayGroups groups =>
    have hp := h.proceed w.circumstances
    simp only [beginTask, settleTask, scene_report]
    exact hp
  | replayPrecomputed state =>
    have hp := h.proceed w.circumstances
    simp only [beginTask, settleTask, scene_report]
    exact hp
  | custom id =>
    rw [beginTask, scene_enqueue]
    exact h
  | fence => exact arises_request h
  | resolveNotifications ids =>
    have hp := h.proceed w.circumstances
    simp only [beginTask, scene_report]
    exact hp

lemma arises_endWork {op : OperationId} {id : WorkId} {how : WorkEnd}
    (h : (w.scene.and {(op, .task (.custom 0))}).Arises start) :
    (w.endWork op id how).scene.Arises start := by
  simp only [endWork, scene_enqueue, scene_arrive]
  exact h

lemma arises_runWork {op : OperationId} {id : WorkId}
    (h : (w.scene.and {(op, .task (.custom 0))}).Arises start) :
    (w.runWork op id).scene.Arises start := by
  rw [runWork]
  split
  · exact arises_endWork h
  · exact arises_endWork h
  · rw [scene_hold]
    exact h
  · rw [scene_hold]
    exact h

lemma arises_noteEnd {op : OperationId} {how : WorkEnd}
    (h : (w.scene.and {(op, .task (.custom 0))}).Arises start) :
    (w.noteEnd op how).scene.Arises start := by
  have hp := Scene.Arises.proceed (x := .task (.custom 0)) w.circumstances h
  simp only [noteEnd, scene_report]
  cases how <;> exact hp

lemma arises_proceed {f : Flight} (h : (w.scene.and (carried [f])).Arises start) :
    (w.proceed f).scene.Arises start := by
  obtain ⟨op, stage⟩ := f
  cases stage with
  | begin task => exact arises_beginTask h
  | receive latency answer => exact arises_receive h
  | take answer => exact arises_takeAnswer h
  | work id => exact arises_runWork h
  | endWork id how => exact arises_endWork h
  | noteEnd how => exact arises_noteEnd h
  | timer delay =>
    cases delay with
    | zero =>
      have hp := Scene.Arises.proceed (x := .timer) w.circumstances h
      show (w.report op .timerFired).scene.Arises start
      rw [scene_report]
      exact hp
    | succ delay =>
      show (w.hold ⟨op, .timer 0⟩ (.time (w.timeAfter (delay + 1)))).scene.Arises start
      rw [scene_hold]
      exact h

lemma arises_takeTurn {t : Turn} {turns : List Turn} (h : w.scene.Arises start)
    (ht : w.turns = t :: turns) : ({ w with turns }.takeTurn t).scene.Arises start := by
  cases t with
  | resident r =>
    have hs : ({ w with turns }).scene = w.scene := by
      rw [scene, underway, scene, underway, ht]
      rfl
    rw [← hs] at h
    cases r with
    | engine => exact arises_engineTurn h
    | forwarder => exact arises_forwarderTurn h
  | flight f =>
    have hs : w.scene = ({ w with turns }).scene.and (carried [f]) := by
      refine Scene.ext rfl rfl rfl ?_
      have hu : carried (w.turns.filterMap Turn.flight?) = carried [f] + carried (turns.filterMap Turn.flight?) := by
        rw [ht, ← carried_append]
        rfl
      rw [scene, underway, hu, add_assoc, add_assoc, add_comm (carried [f]), ← add_assoc]
      rfl
    rw [hs] at h
    rw [takeTurn]
    split
    · next hf => exact arises_store h (by obtain ⟨op, stage⟩ := f; cases stage <;> first | rfl | cases hf)
    · exact arises_proceed h

lemma arises_driveWithin {fuel left target : Nat} {enough : World → Bool} (h : w.scene.Arises start) :
    (driveWithin fuel left target enough w).scene.Arises start := by
  fun_induction driveWithin fuel left target enough w with
  | case1 => exact h
  | case2 fuel target enough w t turns left ht ih => exact ih (arises_takeTurn h ht)
  | case3 fuel target enough w t turns ht ih => exact ih (w.scene_resume ▸ h)
  | case4 fuel left target enough w ht hp ih => exact ih (w.scene_resume ▸ h)
  | case5 fuel left target enough w ht hp f storing hs ih =>
    have hf : w.scene.storing = carried [f] + carried storing := by
      rw [scene, hs, ← carried_append]
      rfl
    exact ih (arises_proceed (h.fetch hf))
  | case6 => exact h
  | case7 fuel left target enough w ht hp hs he due hd ih =>
    refine ih ?_
    rw [moveClock, scene_release]
    exact h
  | case8 => exact h

lemma arises_settle (h : w.scene.Arises start) : w.settle.scene.Arises start :=
  arises_driveWithin h

lemma arises_act {a : Act} (h : w.scene.Arises start) (ha : w.act a = some w') : w'.scene.Arises start := by
  cases a with
  | openGate name how => rwa [scene_openGate w ha]
  | interfere i =>
    cases ha
    exact h.interfere (Account.Known.interfere i)
  | setSettings chat settings =>
    cases ha
    exact h.interfere id
  | network change =>
    cases ha
    exact h
  | push | dropHandle =>
    cases ha
    rw [scene_wake]
    exact h
  | _ =>
    cases ha
    simpa using h

lemma arises_acts {acts : List Act} (h : w.scene.Arises start)
    (ha : acts.foldlM act w = some w') : w'.scene.Arises start := by
  induction acts generalizing w with
  | nil =>
    cases ha
    exact h
  | cons a acts ih =>
    obtain ⟨w'', ha', ha⟩ := Option.bind_eq_some_iff.mp ha
    exact ih (arises_act h ha') ha

lemma arises_recv {name : String} {listener : ListenerId} (h : w.scene.Arises start) :
    (w.recv name listener).scene.Arises start := by
  simp only [recv]
  split
  · exact arises_driveWithin h
  · exact arises_driveWithin h

lemma arises_shutdown (h : w.scene.Arises start) : w.shutdown.scene.Arises start := by
  rw [shutdown]
  split
  · exact arises_settle (arises_stopEngine (w := w.tell "shutdown" _) h)
  · exact h

lemma arises_step {s : Step} (h : w.scene.Arises start) (hs : w.step s = some w') :
    w'.scene.Arises start := by
  cases s with
  | batch acts =>
    obtain ⟨w'', ha, rfl⟩ := Option.map_eq_some_iff.mp hs
    exact arises_settle (arises_acts h ha)
  | subscribe name topic =>
    cases hs
    rw [subscribe]
    split
    · exact h
    · exact arises_settle (by rwa [scene_ask])
  | abandon name topic =>
    cases hs
    rw [abandon]
    split
    · exact h
    · exact arises_settle (by rw [scene_send]; exact h)
  | recv name =>
    obtain ⟨listener, -, rfl⟩ := Option.map_eq_some_iff.mp hs
    exact arises_recv h
  | advance ms =>
    cases hs
    exact arises_driveWithin h
  | shutdown =>
    cases hs
    exact arises_shutdown h

lemma arises_run {steps : List Step} {os : List Observation} (h : w.scene.Arises start)
    (hr : run steps w = some (os, w')) : w'.scene.Arises start := by
  induction steps generalizing w os with
  | nil =>
    cases hr
    exact h
  | cons s steps ih =>
    obtain ⟨w₁, hs, hr⟩ := Option.bind_eq_some_iff.mp hr
    obtain ⟨⟨os', w₂⟩, hr, he⟩ := Option.bind_eq_some_iff.mp hr
    cases he
    have hw : w₁.scene.Arises start := arises_step h hs
    have hw' : w₁.observe.2.scene.Arises start := hw
    exact ih hw' hr

/-- Whatever is asked of a scripted world that follows a replica, it follows what some run makes of that. -/
theorem follows_run {r : Replica} {w w' : World} {steps : List Step} {os : List Observation}
    (hf : w.scene.Follows r) (h : run steps w = some (os, w')) : ∃ moves, w'.scene.Follows (r.run moves) :=
  arises_run ⟨[], hf⟩ h

theorem follows_of_run {c : Configuration} {slow recording : Bool} {storage : SharedStorage}
    {network : ScriptedNetwork} {reaction : CallReaction} {steps : List Step} {os : List Observation} {w : World}
    (h : run steps (.new c slow storage network recording reaction) = some (os, w)) :
    ∃ moves, w.scene.Follows ((Replica.new c.retryDelay storage).run moves) := by
  refine follows_run ⟨?_, rfl, ?_, ⟨0, rfl, fun _ => rfl⟩, rfl⟩ h
  · rintro e ⟨⟩
    rfl
  · rintro x ⟨⟩

/-- As long as there is an engine, only its running head has a task, a timer or a report. -/
theorem underway_of_run {c : Configuration} {slow recording : Bool} {storage : SharedStorage}
    {network : ScriptedNetwork} {reaction : CallReaction} {steps : List Step} {os : List Observation} {w : World}
    {e : Engine} (h : run steps (.new c slow storage network recording reaction) = some (os, w))
    (he : w.engine = some e) :
    (e.queue.operations = [] ∧ w.underway + carried w.storing = 0) ∨
      ∃ op rest x, e.queue.operations = op :: rest ∧ op.running = true ∧
        w.underway + carried w.storing = {(op.id, x)} := by
  obtain ⟨moves, hf⟩ := follows_of_run h
  obtain ⟨lost, hl, hs⟩ := hf.underway
  obtain rfl := hs (by rw [scene, he]; rfl)
  obtain rfl := hf.engine e he
  rw [add_zero] at hl
  cases Replica.sound_of_run c.retryDelay storage moves with
  | rest _ hq _ hu => exact Or.inl ⟨hq, hl.trans (by rw [hu]; rfl)⟩
  | busy _ op rest x hq hr _ _ hu _ => exact Or.inr ⟨op, rest, x.outline, hq, hr, hl.trans (by rw [hu]; rfl)⟩

end World

end AccountReplica
