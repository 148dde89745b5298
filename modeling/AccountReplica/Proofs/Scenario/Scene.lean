import AccountReplica.Scenario.Observation
import AccountReplica.Proofs.Replica.Basic
import Mathlib.Algebra.Order.Group.Multiset

/-! What a scripted world and a replica have in common: the engine, the storage, and what is under way
between them, in whatever order. -/

namespace AccountReplica

/-- An errand up to what none of its stages reads: which work it is, and how much was asked for. -/
def Errand.outline : Errand → Errand
  | task (.custom _) => task (.custom 0)
  | asked events (.difference request) => asked events (.difference ⟨request.origin, none⟩)
  | x => x

lemma Errand.proceed_outline (c : Circumstances) (s : SharedStorage) (x : Errand) :
    x.outline.proceed c s = x.proceed c s := by
  cases x with
  | task t => cases t <;> rfl
  | asked events question => cases question <;> rfl
  | _ => rfl

abbrev Underway := Multiset (OperationId × Errand)

def outlines (xs : List (OperationId × Errand)) : Underway :=
  xs.map fun x => (x.1, x.2.outline)

def Errand.isTimer : Errand → Bool
  | timer => true
  | _ => false

lemma Errand.isTimer_outline (x : Errand) : x.outline.isTimer = x.isTimer := by
  cases x with
  | task t => cases t <;> rfl
  | asked events question => cases question <;> rfl
  | _ => rfl

namespace Underway

def Timeless (xs : Underway) : Prop :=
  ∀ x ∈ xs, x.2.isTimer = false

def cancel (id : OperationId) (xs : Underway) : Underway :=
  xs.filter fun x => ¬(x.1 = id ∧ x.2.isTimer)

def perform (xs : Underway) : Effect → Underway
  | .spawn id task => xs + {(id, (Errand.task task).outline)}
  | .armTimer id _ => xs + {(id, .timer)}
  | .cancelTimer id => xs.cancel id
  | _ => xs

lemma cancel_add {xs rest : Underway} (h : rest.Timeless) (id : OperationId) :
    (xs + rest).cancel id = xs.cancel id + rest := by
  rw [cancel, Multiset.filter_add]
  congr 1
  exact Multiset.filter_eq_self.mpr fun x hx => by simp [h x hx]

lemma perform_add {xs rest : Underway} (h : rest.Timeless) (x : Effect) :
    (xs + rest).perform x = xs.perform x + rest := by
  cases x with
  | cancelTimer id => exact cancel_add h id
  | spawn | armTimer => exact add_right_comm ..
  | _ => rfl

lemma foldl_perform_add {xs rest : Underway} (h : rest.Timeless) (effects : List Effect) :
    effects.foldl perform (xs + rest) = effects.foldl perform xs + rest := by
  induction effects generalizing xs with
  | nil => rfl
  | cons x effects ih => rw [List.foldl_cons, perform_add h, ih, List.foldl_cons]

lemma timeless_le_foldl_perform (effects : List Effect) {xs ys : Underway} (hs : xs.Timeless) (hl : xs ≤ ys) :
    xs ≤ effects.foldl perform ys := by
  induction effects generalizing ys with
  | nil => exact hl
  | cons x effects ih =>
    refine ih ?_
    cases x with
    | cancelTimer id =>
      exact Multiset.le_filter.mpr ⟨hl, fun x hx => by simp [hs x hx]⟩
    | spawn | armTimer => exact hl.trans (Multiset.le_add_right ..)
    | _ => exact hl

end Underway

lemma outlines_perform (xs : List (OperationId × Errand)) (x : Effect) :
    outlines (Replica.perform xs x) = (outlines xs).perform x := by
  cases x with
  | spawn | armTimer =>
    simp only [Replica.perform, Underway.perform, outlines, List.map_append, ← Multiset.coe_add]
    rfl
  | cancelTimer id =>
    simp only [Replica.perform, Underway.perform, Underway.cancel, outlines, Multiset.filter_coe, List.filter_map]
    congr 2
    refine List.filter_congr fun x _ => ?_
    obtain ⟨i, x⟩ := x
    simp only [Function.comp, Errand.isTimer_outline]
    cases x <;> simp [Errand.isTimer]
  | _ => rfl

lemma outlines_foldl_perform (xs : List (OperationId × Errand)) (effects : List Effect) :
    outlines (effects.foldl Replica.perform xs) = effects.foldl Underway.perform (outlines xs) :=
  (List.foldl_hom outlines fun xs x => (outlines_perform xs x).symm).symm

lemma exists_outline {xs : List (OperationId × Errand)} {op : OperationId} {o : Errand} {rest : Underway}
    (h : outlines xs = {(op, o)} + rest) :
    ∃ n x, xs[n]? = some (op, x) ∧ x.outline = o ∧ outlines (xs.eraseIdx n) = rest ∧
      ∀ y, outlines (xs.set n (op, y)) = {(op, y.outline)} + rest := by
  have hm : (op, o) ∈ outlines xs := by simp [h]
  obtain ⟨⟨op, x⟩, hx, he⟩ := List.mem_map.mp (Multiset.mem_coe.mp hm)
  cases he
  obtain ⟨n, hn, hx⟩ := List.mem_iff_getElem.mp hx
  have hr : outlines xs = {(op, x.outline)} + outlines (xs.eraseIdx n) := by
    have hp := (List.getElem_cons_eraseIdx_perm hn).symm
    rw [hx] at hp
    exact Multiset.coe_eq_coe.mpr (hp.map _)
  have he : outlines (xs.eraseIdx n) = rest := add_left_cancel (hr.symm.trans h)
  refine ⟨n, x, List.getElem?_eq_some_iff.mpr ⟨hn, hx⟩, rfl, he, fun y => ?_⟩
  rw [← he]
  exact Multiset.coe_eq_coe.mpr ((List.set_perm_cons_eraseIdx hn (op, y)).map _)

def Answer.errand : Answer → Errand
  | state events _ => .asked events .currentState
  | difference events origin _ => .asked events (.difference ⟨origin, none⟩)
  | fence _ => .task .fence

lemma Answer.outline_errand (answer : Answer) : answer.errand.outline = answer.errand := by
  cases answer <;> rfl

def Stage.errand : Stage → Errand
  | begin task => (Errand.task task).outline
  | receive _ answer | take answer => answer.errand
  | work _ | endWork .. | noteEnd _ => .task (.custom 0)
  | timer _ => .timer

def Flight.errand (f : Flight) : OperationId × Errand :=
  (f.op, f.stage.errand)

lemma Flight.isTimer_errand (f : Flight) : f.errand.2.isTimer = f.isTimer := by
  obtain ⟨op, stage⟩ := f
  cases stage with
  | begin task => cases task <;> rfl
  | receive latency answer => cases answer <;> rfl
  | take answer => cases answer <;> rfl
  | _ => rfl

def carried (fs : List Flight) : Underway :=
  fs.map Flight.errand

@[simp] lemma carried_append (fs gs : List Flight) : carried (fs ++ gs) = carried fs + carried gs := by
  simp [carried]

lemma carried_perm {fs gs : List Flight} (h : fs.Perm gs) : carried fs = carried gs :=
  Multiset.coe_eq_coe.mpr (h.map _)

lemma carried_filter {isDropped : Flight → Bool} {p : OperationId × Errand → Prop} [DecidablePred p]
    (hf : ∀ f, p f.errand ↔ isDropped f = false) (fs : List Flight) :
    carried (fs.filter (!isDropped ·)) = (carried fs).filter p := by
  rw [carried, carried, Multiset.filter_coe, List.filter_map]
  congr 2
  exact List.filter_congr fun f _ => by simp [hf]

def reported (rs : List (OperationId × Report)) : Underway :=
  rs.map fun x => (x.1, Errand.report x.2)

@[simp] lemma reported_append (rs rs' : List (OperationId × Report)) :
    reported (rs ++ rs') = reported rs + reported rs' := by
  simp [reported]

lemma filterMap_flight (fs : List Flight) : (fs.map Turn.flight).filterMap Turn.flight? = fs := by
  rw [List.filterMap_map]
  exact List.filterMap_some

def Input.errands : Input → Underway
  | command _ => 0
  | report id r => {(id, .report r)}

lemma Input.timeless_errands (i : Input) : i.errands.Timeless := by
  cases i with
  | command c => simp [errands, Underway.Timeless]
  | report id r => simp [errands, Underway.Timeless, Errand.isTimer]

@[ext] structure Scene where
  engine : Option Engine
  storage : SharedStorage
  storing : Underway
  underway : Underway

def Scene.and (s : Scene) (xs : Underway) : Scene :=
  { s with underway := s.underway + xs }

namespace Scene

@[simp] lemma and_zero (s : Scene) : s.and 0 = s := by
  rw [Scene.and, add_zero]

end Scene

namespace World

def underway (w : World) : Underway :=
  carried (w.turns.filterMap Turn.flight?) + carried (w.waiting.map (·.flight)) +
    reported w.reports

def scene (w : World) : Scene :=
  ⟨w.engine, w.storage, carried w.storing, w.underway⟩

variable (w : World)

@[simp] lemma scene_arrive (isFor : Promise → Bool) (o : Outcome) : (w.arrive isFor o).scene = w.scene :=
  rfl

@[simp] lemma scene_pause (r : Resident) : (w.pause r).scene = w.scene :=
  rfl

@[simp] lemma scene_wake (r : Resident) : (w.wake r).scene = w.scene := by
  rw [wake]
  split
  · rfl
  · refine Scene.ext rfl rfl rfl ?_
    rw [scene, underway, List.filterMap_append, carried_append,
      show [Turn.resident r].filterMap Turn.flight? = [] from rfl]
    simp [scene, underway, carried]

@[simp] lemma scene_resume : w.resume.scene = w.scene := by
  have (rs : List Resident) (w : World) : (rs.foldl wake w).scene = w.scene := by
    induction rs generalizing w with
    | nil => rfl
    | cons r rs ih => rw [List.foldl_cons, ih, scene_wake]
  exact this w.paused { w with paused := [] }

@[simp] lemma scene_post (cs : List Command) : (w.post cs).scene = w.scene := by
  simp only [post]
  split
  · exact scene_wake { w with mail := w.mail ++ cs } .engine
  · rfl

@[simp] lemma scene_enqueue (f : Flight) : (w.enqueue f).scene = w.scene.and (carried [f]) := by
  refine Scene.ext rfl rfl rfl ?_
  simp only [scene, Scene.and, underway, enqueue, List.filterMap_append, carried_append]
  rw [show [Turn.flight f].filterMap Turn.flight? = [f] from rfl]
  ac_rfl

@[simp] lemma scene_hold (f : Flight) (h : Hold) : (w.hold f h).scene = w.scene.and (carried [f]) := by
  refine Scene.ext rfl rfl rfl ?_
  simp only [scene, Scene.and, underway, hold, List.map_append, carried_append, List.map_cons, List.map_nil]
  ac_rfl

@[simp] lemma scene_report (op : OperationId) (r : Report) :
    (w.report op r).scene = w.scene.and {(op, .report r)} := by
  rw [report, scene_wake]
  refine Scene.ext rfl rfl rfl ?_
  simp only [scene, Scene.and, underway, reported_append, add_assoc]
  rfl

@[simp] lemma scene_release (isOver : Hold → Bool) : (w.release isOver).scene = w.scene := by
  refine Scene.ext rfl rfl rfl ?_
  have hw : carried ((w.waiting.filter (isOver ·.hold)).map (·.flight)) +
      carried ((w.waiting.filter (!isOver ·.hold)).map (·.flight)) = carried (w.waiting.map (·.flight)) := by
    rw [← carried_append, ← List.map_append]
    exact carried_perm ((List.filter_append_perm ..).map _)
  have ht : ((w.waiting.filter (isOver ·.hold)).map (Turn.flight ·.flight)).filterMap Turn.flight? =
      (w.waiting.filter (isOver ·.hold)).map (·.flight) := by
    rw [← filterMap_flight ((w.waiting.filter (isOver ·.hold)).map (·.flight)), List.map_map]
    rfl
  simp only [scene, underway, release, List.filterMap_append, carried_append, ht, ← hw]
  ac_rfl

@[simp] lemma scene_send (name : String) (c : Command) : (w.send name c).scene = w.scene := by
  rw [send]
  split
  · rw [scene_post]
  · rfl

@[simp] lemma scene_ask (name : String) (promise : Nat → Promise) (c : Nat → Command) :
    (w.ask name promise c).scene = w.scene := by
  rw [ask]
  split
  · rw [scene_post]
    rfl
  · rfl

@[simp] lemma scene_drop (name : String) : (w.drop name).scene = w.scene := by
  simp only [drop]
  split
  · rw [scene_post]
    rfl
  · rfl

@[simp] lemma scene_letGo (id : WorkId) (how : WorkEnd) : (w.letGo id how).scene = w.scene := by
  rw [letGo, scene_release]
  rfl

lemma scene_openGate {w' : World} {name : String} {how : WorkEnd} (h : w.openGate? name how = some w') :
    w'.scene = w.scene := by
  obtain ⟨id, -, rfl⟩ := Option.map_eq_some_iff.mp h
  rw [scene_letGo]
  rfl

@[simp] lemma scene_addGate (name : String) (id : WorkId) : (w.addGate name id).scene = w.scene := by
  show ((w.openGate? name (.err "gate dropped")).getD w).scene = w.scene
  cases h : w.openGate? name (.err "gate dropped") with
  | none => rfl
  | some w' => exact w.scene_openGate h

@[simp] lemma scene_custom (name : String) (plan : WorkPlan) : (w.custom name plan).scene = w.scene := by
  simp only [custom, scene_ask]
  split
  · rw [scene_addGate]
    rfl
  · rfl

lemma carried_permitted (n : Nat) (ws : List Waiting) :
    carried (Waiting.permitted n ws).1 + carried ((Waiting.permitted n ws).2.map (·.flight)) =
      carried (ws.map (·.flight)) := by
  fun_induction Waiting.permitted n ws with
  | case1 => rfl
  | case2 => rfl
  | case3 n x ws hx fs rest hp ih =>
    rw [hp] at ih
    show x.flight.errand ::ₘ carried fs + carried (rest.map (·.flight)) =
      x.flight.errand ::ₘ carried (ws.map (·.flight))
    rw [Multiset.cons_add, ih]
  | case4 n x ws hx fs rest hp ih =>
    rw [hp] at ih
    show carried fs + x.flight.errand ::ₘ carried (rest.map (·.flight)) =
      x.flight.errand ::ₘ carried (ws.map (·.flight))
    rw [Multiset.add_cons, ih]

@[simp] lemma scene_addPermits (n : Nat) : (w.addPermits n).scene = w.scene := by
  refine Scene.ext rfl rfl rfl ?_
  simp only [addPermits, scene, underway, List.filterMap_append, carried_append, filterMap_flight,
    ← carried_permitted n w.waiting]
  ac_rfl

lemma underway_dropFlights {isDropped : Flight → Bool} {p : OperationId × Errand → Prop} [DecidablePred p]
    (hf : ∀ f, p f.errand ↔ isDropped f = false) (hr : ∀ op r, p (op, .report r)) :
    (w.dropFlights isDropped).underway = w.underway.filter p := by
  have ht : (w.turns.filter (!·.flight?.any isDropped)).filterMap Turn.flight? =
      (w.turns.filterMap Turn.flight?).filter (!isDropped ·) := by
    rw [List.filterMap_filter, List.filter_filterMap]
    congr 1
    funext t
    cases t with
    | resident r => rfl
    | flight f => cases h : isDropped f <;> simp [Turn.flight?, Option.filter, h]
  have hw : (w.waiting.filter (!isDropped ·.flight)).map (·.flight) =
      (w.waiting.map (·.flight)).filter (!isDropped ·) := by
    rw [List.filter_map]
    rfl
  have hr : (reported w.reports).filter p = reported w.reports := by
    refine Multiset.filter_eq_self.mpr fun x hx => ?_
    obtain ⟨y, -, rfl⟩ := List.mem_map.mp hx
    exact hr y.1 y.2
  simp only [underway, dropFlights, ht, hw, carried_filter hf, Multiset.filter_add, hr]

end World

end AccountReplica
