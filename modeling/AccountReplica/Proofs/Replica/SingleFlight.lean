import AccountReplica.Proofs.Replica.Sound

/-! One operation runs at a time, and what it waits for is under way. -/

namespace AccountReplica

namespace Engine

variable {e : Engine} {op : Operation} {rest : List Operation}

structure Accepts (e : Engine) (id : OperationId) (report : Report) : Prop where
  finishes : ∃ c e', e.finish? id = some (c, e') ∧ c.kind = report.kind
  timer : report.kind = .collectGroups → e.timer = some id

lemma finish?_running (hq : e.queue.operations = op :: rest) (hr : op.running = true) :
    ∃ e', e.finish? op.id = some (op.content, e') := by
  have hh : e.queue.isRunningHead op.id = true := by simp [OperationQueue.isRunningHead, hq, hr]
  have hp : ∀ e' : Engine, e'.queue = e.queue →
      e'.queue.popHead? op.id = some (op, ⟨rest, e.queue.issued⟩) := by
    intro e' he
    simp [OperationQueue.popHead?, he, hq]
  have hc : e.cancelTimer.queue = e.queue := by
    unfold cancelTimer
    split <;> rfl
  simp only [finish?, hh, if_true]
  split
  · exact ⟨_, by rw [hp _ hc]; rfl⟩
  · exact ⟨_, by rw [hp _ rfl]; rfl⟩

lemma Settled.accepts (h : e.Settled) (hq : e.queue.operations = op :: rest) {report : Report}
    (hk : report.kind = op.content.kind) : e.Accepts op.id report where
  finishes := by
    obtain ⟨e', he⟩ := finish?_running hq (h.head hq).1
    exact ⟨op.content, e', he, hk.symm⟩
  timer ht := by rw [(h.head hq).2.2, if_pos (hk.symm.trans ht)]

end Engine

namespace Errand

def stagesLeft : Errand → Nat
  | task (.pollDifference _) => 2
  | report _ => 0
  | _ => 1

lemma stagesLeft_le_two (x : Errand) : x.stagesLeft ≤ 2 := by
  unfold stagesLeft
  split <;> decide

lemma stagesLeft_proceed (x : Errand) (c : Circumstances) (s : SharedStorage) :
    (x.proceed c s).errand.stagesLeft ≤ x.stagesLeft - 1 := by
  cases x with
  | task t =>
    cases t with
    | pollDifference events =>
      simp only [proceed]
      split
      · exact Nat.zero_le 1
      · exact Nat.le_refl 1
    | _ => exact Nat.le_refl 0
  | asked events question => cases question <;> exact Nat.le_refl 0
  | _ => exact Nat.le_refl 0

lemma exists_report {x : Errand} (h : x.stagesLeft = 0) : ∃ report, x = .report report := by
  cases x with
  | report report => exact ⟨report, rfl⟩
  | task t => cases t <;> cases h
  | _ => cases h

end Errand

namespace Replica

structure SingleFlight (r : Replica) : Prop where
  running : ∀ op rest, r.engine.queue.operations = op :: rest →
    op.running = true ∧ ∀ op' ∈ rest, op'.running = false
  underway : r.underway.map (·.1) = (r.engine.queue.operations.head?.map (·.id)).toList
  timer : ∀ id, r.engine.timer = some id ↔
    ∃ op, r.engine.queue.operations.head? = some op ∧ op.id = id ∧ op.content.kind = .collectGroups
  accepted : ∀ e id report, .turn e (.report id report) ∈ r.history → e.Accepts id report
  awaited : ∀ op, r.engine.queue.operations.head? = some op → ∀ c c',
    ∃ e report, (r.run [.proceed 0 c, .proceed 0 c', .deliver 0]).history =
      (r.run [.proceed 0 c, .proceed 0 c']).history ++ [.turn e (.report op.id report)]

lemma underway_of_proceed {r : Replica} {id : OperationId} {x : Errand} (hu : r.underway = [(id, x)])
    (c : Circumstances) :
    ∃ x', (r.move (.proceed 0 c)).underway = [(id, x')] ∧ x'.stagesLeft ≤ x.stagesLeft - 1 :=
  ⟨_, by simp [move, hu], x.stagesLeft_proceed c r.storage⟩

lemma awaited_of_underway {r : Replica} {id : OperationId} {x : Errand} (hu : r.underway = [(id, x)])
    (c c' : Circumstances) :
    ∃ e report, (r.run [.proceed 0 c, .proceed 0 c', .deliver 0]).history =
      (r.run [.proceed 0 c, .proceed 0 c']).history ++ [.turn e (.report id report)] := by
  obtain ⟨x', hu', hx'⟩ := underway_of_proceed hu c
  obtain ⟨x'', hu'', hx''⟩ := underway_of_proceed hu' c'
  have hx := x.stagesLeft_le_two
  obtain ⟨report, rfl⟩ := Errand.exists_report (x := x'') (by omega)
  simp only [run, List.foldl_cons, List.foldl_nil]
  generalize (r.move (.proceed 0 c)).move (.proceed 0 c') = r' at hu'' ⊢
  exact ⟨r'.engine, report, by simp [move, hu'', feed]⟩

/-- Between any two moves at most one operation runs, the head of the queue. Exactly one task, timer or report is
under way for it and nothing for any other. The report on it comes after two stages at most, and is accepted. -/
theorem singleFlight_of_run (retryDelay : Nat) (storage : SharedStorage) (moves : List Move) :
    ((new retryDelay storage).run moves).SingleFlight := by
  have ha : ∀ e id report, .turn e (.report id report) ∈ ((new retryDelay storage).run moves).history →
      e.Accepts id report := by
    intro e id report h
    obtain ⟨hs, -, hd⟩ := due_of_turn h
    cases hd with
    | report op rest _ hq hk => exact hs.accepts hq hk
  obtain ⟨-, hq, ht, hu⟩ | ⟨-, op, rest, x, hq, hr, ho, ht, hu, -⟩ := sound_of_run retryDelay storage moves
  · refine ⟨?_, ?_, ?_, ha, ?_⟩
    · intro op rest hq'
      cases hq.symm.trans hq'
    · simp [hq, hu]
    · simp [hq, ht]
    · simp [hq]
  · refine ⟨?_, ?_, ?_, ha, ?_⟩
    · intro op' rest' hq'
      obtain ⟨rfl, rfl⟩ := List.cons.inj (hq.symm.trans hq')
      exact ⟨hr, fun op' hm => (ho.waits op' hm).1⟩
    · simp [hq, hu]
    · intro id
      rw [ht, hq]
      split <;> simp_all
    · intro op' ho' c c'
      rw [hq] at ho'
      cases ho'
      exact awaited_of_underway hu c c'

end Replica

end AccountReplica
