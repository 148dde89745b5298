import AccountReplica.Proofs.Engine.Work

/-! What a turn does with the work that callers have asked for. -/

namespace AccountReplica

def Task.isWork (t : Task) : Bool :=
  t.kind = .custom || t.kind = .replayPrecomputed

def Task.isReplay (t : Task) : Bool :=
  t.kind = .replayPrecomputed

def Effect.begun? : Effect → Option (OperationId × Task)
  | spawn id task => if task.isWork then some (id, task) else none
  | _ => none

def begun (xs : List Effect) : List (OperationId × Task) :=
  xs.filterMap Effect.begun?

def Deed.begun? : Deed → Option (OperationId × Task)
  | launch id (some task) => if task.isWork then some (id, task) else none
  | _ => none

lemma begun_eq (xs : List Effect) : begun xs = (deeds xs).filterMap Deed.begun? := by
  rw [begun, deeds, List.filterMap_filterMap]
  congr 1
  funext x
  cases x <;> rfl

lemma begun_of_deeds {xs ys : List Effect} (h : deeds xs = deeds ys) : begun xs = begun ys := by
  rw [begun_eq, begun_eq, h]

def Operation.pending? (op : Operation) : Option (OperationId × Task) :=
  if op.running || !op.content.isWork then none else op.content.task.map (op.id, ·)

def pendings (ops : List Operation) : List (OperationId × Task) :=
  ops.filterMap Operation.pending?

/-- What stays as it is of work when it is started. -/
structure Ticket where
  id : OperationId
  kind : OperationKind
  waiter : Option WaiterId

def Operation.ticket (op : Operation) : Ticket :=
  ⟨op.id, op.content.kind, op.content.waiter?⟩

def tickets (ops : List Operation) : List Ticket :=
  (works ops).map Operation.ticket

def owed (ops : List Operation) : List Ticket :=
  (tickets ops).filter (·.kind = .replayPrecomputed)

lemma pendings_append (ops ops' : List Operation) : pendings (ops ++ ops') = pendings ops ++ pendings ops' :=
  List.filterMap_append

lemma pendings_cons (op : Operation) (ops : List Operation) :
    pendings (op :: ops) = op.pending?.toList ++ pendings ops := by
  cases h : op.pending? <;> simp [pendings, h]

lemma pendings_works (ops : List Operation) : pendings (works ops) = pendings ops := by
  rw [pendings, works, List.filterMap_filter]
  congr 1
  funext op
  simp only [Operation.pending?]
  cases op.content.isWork <;> simp

lemma pending?_outlasting (op : Operation) :
    (if op.outlasts then op.pending? else none) = op.pending?.filter (·.2.isReplay) := by
  obtain ⟨id, c, running⟩ := op
  cases running with
  | true => rfl
  | false =>
    cases c with
    | custom work => cases work <;> rfl
    | _ => rfl

lemma pendings_leftWorks (restarts : Bool) (ops : List Operation) :
    pendings (leftWorks restarts ops) =
      if restarts then (pendings ops).filter (·.2.isReplay) else pendings ops := by
  simp only [leftWorks]
  split
  · rw [pendings, List.filterMap_filter, ← pendings_works ops, pendings, List.filter_filterMap]
    exact congrArg (List.filterMap · _) (funext pending?_outlasting)
  · exact pendings_works ops

lemma owed_leftWorks (restarts : Bool) (ops : List Operation) :
    ((leftWorks restarts ops).map Operation.ticket).filter (·.kind = .replayPrecomputed) = owed ops := by
  simp only [leftWorks]
  split
  · rw [owed, tickets, List.filter_map, List.filter_map, List.filter_filter]
    congr 2
    funext op
    by_cases hk : op.content.kind = .replayPrecomputed <;> simp [Operation.ticket, Operation.outlasts, hk]
  · rfl

lemma tickets_started (op : Operation) (rest : List Operation) :
    tickets ({ op with content := op.content.started, running := true } :: rest) = tickets (op :: rest) := by
  obtain ⟨id, c, running⟩ := op
  cases c <;> rfl

namespace Engine

variable {e e' e'' : Engine} {op : Operation} {rest : List Operation}

/-- Starting operations begins some of the work, and all else of it waits as before. -/
structure Begins (e e' : Engine) : Prop where
  tickets : tickets e'.queue.operations = tickets e.queue.operations
  tasks : ∃ ts, begun e'.effects = begun e.effects ++ ts ∧
    ts ++ pendings e'.queue.operations = pendings e.queue.operations

namespace Begins

lemma of_works (hw : works e'.queue.operations = works e.queue.operations) (hb : begun e'.effects = begun e.effects) :
    e.Begins e' where
  tickets := congrArg (List.map _) hw
  tasks := by
    refine ⟨[], by rw [hb, List.append_nil], ?_⟩
    rw [← pendings_works, hw, pendings_works, List.nil_append]

lemma refl (e : Engine) : e.Begins e :=
  of_works rfl rfl

lemma trans (h : e.Begins e') (h' : e'.Begins e'') : e.Begins e'' where
  tickets := h'.tickets.trans h.tickets
  tasks := by
    obtain ⟨ts, hb, hp⟩ := h.tasks
    obtain ⟨ts', hb', hp'⟩ := h'.tasks
    exact ⟨ts ++ ts', by rw [hb', hb, List.append_assoc], by rw [List.append_assoc, hp', hp]⟩

end Begins

lemma begun_emit (e : Engine) (x : Effect) : begun (e.emit x).effects = begun e.effects ++ x.begun?.toList := by
  rw [emit, begun, List.filterMap_append]
  cases h : x.begun? <;> simp [begun, h]

lemma begins_run (hq : e.queue.operations = op :: rest) (hq' : e'.queue = (e.run op rest).queue)
    (hb : begun e'.effects = begun e.effects ++ op.pending?.toList) : e.Begins e' where
  tickets := by
    rw [hq', hq]
    exact tickets_started op rest
  tasks := by
    refine ⟨op.pending?.toList, hb, ?_⟩
    rw [hq', hq, pendings_cons op, run, pendings_cons]
    rfl

lemma begun_cancelTimer (e : Engine) : begun e.cancelTimer.effects = begun e.effects := by
  simp only [cancelTimer]
  split
  · exact (begun_emit _ _).trans (List.append_nil _)
  · rfl

lemma begun_announce (e : Engine) (id : OperationId) (ev : EventSet) :
    begun ((e.emit (.dispatch id ev)).announce ev).effects = begun e.effects :=
  (begun_of_deeds (tells_announce _ ev).deeds).trans ((begun_emit _ _).trans (List.append_nil _))

lemma begins_of_start (hq : e.queue.operations = op :: rest) (hi : op.running = false) (hw : op.content.Whole)
    {goesOn : Bool} (hs : e.start op rest = (e', goesOn)) : e.Begins e' := by
  have hnot (h : op.content.isWork = false) : op.pending?.toList = [] := by simp [Operation.pending?, h]
  have hdrop (h : op.content.isWork = false) : works rest = works e.queue.operations := by rw [hq, works_idle h]
  rw [start] at hs
  split at hs
  · next hc =>
    cases hs
    exact begins_run hq rfl (by rw [begun_emit, hnot (by rw [hc]; rfl)]; rfl)
  · next hc =>
    cases hs
    refine begins_run hq (cancelTimer_groups (e.run op rest)).1 ?_
    rw [hnot (by rw [hc]; rfl)]
    exact (begun_emit _ _).trans (congrArg (· ++ []) (begun_cancelTimer (e.run op rest)))
  · next hc =>
    cases hs
    exact begins_run hq rfl (by rw [begun_emit, hnot (by rw [hc]; rfl)]; rfl)
  · next hc =>
    cases hs
    exact begins_run hq rfl (by rw [begun_emit, Operation.pending?, hi, hc]; rfl)
  · next hc =>
    rw [hc] at hw
    cases hw
  · next hc =>
    cases hs
    exact begins_run hq rfl (by rw [begun_emit, Operation.pending?, hi, hc]; rfl)
  · next ids subscribers hc =>
    have hn : op.content.isWork = false := by rw [hc]; rfl
    split at hs
    · cases hs
      refine begins_run hq rfl ?_
      rw [begun_emit, begun_emit, hnot hn, List.append_assoc]
      rfl
    · cases hs
      exact .of_works ((works_insertLast _ _).trans ((List.append_nil _).trans (hdrop hn))) rfl
  · next ev hc =>
    have hn : op.content.isWork = false := by rw [hc]; rfl
    have hb := begun_announce (e.run op rest) op.id ev
    dsimp only at hs
    split at hs
    · cases hs
      exact .of_works (hdrop hn) hb
    · cases hs
      have hrun := begins_run hq (announce_groups (e.run op rest) op.id ev).1
        (hb.trans (by rw [hnot hn, List.append_nil]; rfl))
      refine hrun.trans (.of_works (works_withCompletion _ _) ?_)
      exact (begun_emit _ _).trans (List.append_nil _)

lemma Ready.begins (h : e.Ready) : e.Begins e.startFirst := by
  have hs := h.startable
  revert h
  refine startFirst_induct (motive := fun e e' => e.Ready → e.Begins e') ?_ ?_ ?_ hs
  · exact fun e _ _ => .refl e
  · rintro e op rest e' hq hs (⟨hq', -⟩ | ⟨op', rest', hq', hi, hw, -⟩)
    · cases hq.symm.trans hq'
    · obtain ⟨rfl, rfl⟩ := List.cons.inj (hq.symm.trans hq')
      exact begins_of_start hq hi hw hs
  · rintro e op rest e' e'' hq hs ih (⟨hq', -⟩ | ⟨op', rest', hq', hi, hw, ho, ht⟩)
    · cases hq.symm.trans hq'
    · obtain ⟨rfl, rfl⟩ := List.cons.inj (hq.symm.trans hq')
      exact (begins_of_start hq hi hw hs).trans (ih (waiting_of_start hq ho hw ht hs).1.ready)

variable {i : Input}

lemma begun_answers (c : Content) : c.answers.filterMap Deed.begun? = [] := by
  cases c with
  | pollCompletion ids subscribers => simp [Content.answers, Deed.begun?]
  | _ => rfl

lemma begins_refreshUpdating (e : Engine) : e.Begins e.refreshUpdating :=
  .of_works (by rw [(silent_refreshUpdating e).queue]) (begun_of_deeds (silent_refreshUpdating e).deeds)

lemma begins_step (h : e.Settled) (he : e.effects = []) (hd : e.Due i) :
    (e.receive i).Begins (e.step i) ∧ begun (e.receive i).effects = [] := by
  have hstart (hr : (e.receive i).Ready) : (e.receive i).Begins (e.step i) :=
    hr.begins.trans (begins_refreshUpdating _)
  cases hd with
  | command c =>
    obtain ⟨hq, ht⟩ | ⟨op, rest, hq, hr, ho, ht⟩ := h
    · obtain ⟨hw, -, hd⟩ := waiting_command hq ht c
      exact ⟨hstart hw.ready, (begun_of_deeds hd).trans (by rw [he]; rfl)⟩
    · obtain ⟨⟨op', rest', hq', ha, -⟩, -, -, hd⟩ := obeys_command hq hr ho c
      refine ⟨?_, (begun_of_deeds hd).trans (by rw [he]; rfl)⟩
      have hf : (e.command c).startFirst = e.command c := startFirst_running hq' (ha.running.trans hr)
      have hs : e.step (.command c) = (e.command c).refreshUpdating := congrArg refreshUpdating hf
      rw [hs]
      exact begins_refreshUpdating _
  | report op rest r hq hk =>
    obtain ⟨hr, ho, ht⟩ := h.head hq
    have hh := handles_report hq hr ho ht hk
    refine ⟨hstart hh.ready, ?_⟩
    have hn : deeds (e.popped rest).effects = [] := by rw [popped, drop, he, deeds_nil]
    rw [begun_eq, receive, hh.deeds, hn, List.nil_append, begun_answers]

def others (e : Engine) : Input → List Operation
  | .command _ => e.queue.operations
  | .report .. => e.queue.operations.tail

def submitted (e : Engine) : Input → List Operation
  | .command c => c.work?.toList.map (⟨e.queue.nextId, ·, false⟩)
  | .report .. => []

lemma works_receive (h : e.Settled) (hd : e.Due i) :
    works (e.receive i).queue.operations = leftWorks (e.restarts i) (e.others i) ++ e.submitted i := by
  cases hd with
  | command c => exact works_command h c
  | report op rest r hq hk =>
    rw [restarts_report hq, others, hq, submitted, List.append_nil]
    exact works_report h hq hk

lemma pendings_others (h : e.Settled) (hd : e.Due i) : pendings (e.others i) = pendings e.queue.operations := by
  cases hd with
  | command c => rfl
  | report op rest r hq hk =>
    have hn : op.pending?.toList = [] := by simp [Operation.pending?, (h.head hq).1]
    rw [others, hq, pendings_cons, hn]
    rfl

structure WorkTurn (e : Engine) (i : Input) : Prop where
  tickets : tickets (e.step i).queue.operations =
    (leftWorks (e.restarts i) (e.others i) ++ e.submitted i).map Operation.ticket
  tasks : begun (e.step i).effects ++ pendings (e.step i).queue.operations =
    (if e.restarts i then (pendings e.queue.operations).filter (·.2.isReplay) else pendings e.queue.operations) ++
      pendings (e.submitted i)

theorem workTurn_of_due (h : e.Settled) (he : e.effects = []) (hd : e.Due i) : e.WorkTurn i := by
  obtain ⟨⟨ht, ts, hb, hp⟩, hn⟩ := begins_step h he hd
  have hw := works_receive h hd
  refine ⟨ht.trans (congrArg (List.map _) hw), ?_⟩
  rw [hn, List.nil_append] at hb
  rw [hb, hp, ← pendings_works, hw, pendings_append, pendings_leftWorks, pendings_others h hd]

end Engine

end AccountReplica
