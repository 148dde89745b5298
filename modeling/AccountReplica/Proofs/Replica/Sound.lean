import AccountReplica.Proofs.Engine.Command
import AccountReplica.Proofs.Replica.Basic

/-! What is under way belongs to the operation in front, and a move is one of a few. -/

namespace AccountReplica

def Task.kind : Task → OperationKind
  | pollDifference _ => .pollDifference
  | replayGroups _ => .processGroups
  | replayPrecomputed _ => .replayPrecomputed
  | custom _ => .custom
  | fence => .pollCompletion
  | resolveNotifications _ => .processEvents

namespace Errand

def kind : Errand → OperationKind
  | task t => t.kind
  | asked .. => .pollDifference
  | timer => .collectGroups
  | report r => r.kind

lemma kind_proceed (x : Errand) (c : Circumstances) (s : SharedStorage) :
    (x.proceed c s).errand.kind = x.kind := by
  cases x with
  | task t =>
    cases t with
    | pollDifference events =>
      simp only [proceed]
      split <;> rfl
    | _ => rfl
  | asked events question => cases question <;> rfl
  | _ => rfl

end Errand

def Content.errand (c : Content) : Errand :=
  c.task.elim .timer .task

lemma Content.Whole.kind_errand {c : Content} (h : c.Whole) : c.errand.kind = c.kind := by
  cases c with
  | custom work => cases work <;> first | rfl | cases h
  | _ => rfl

namespace Deed

def errand? : Deed → Option (OperationId × Errand)
  | launch id task => some (id, task.elim .timer .task)
  | _ => none

end Deed

def launched (ds : List Deed) : List (OperationId × Errand) :=
  ds.filterMap Deed.errand?

def Deed.told? : Deed → Option EventSet
  | tell events => some events
  | _ => none

lemma filterMap_dispatched (xs : List Effect) :
    xs.filterMap Effect.dispatched? = (deeds xs).filterMap Deed.told? := by
  rw [deeds, List.filterMap_filterMap]
  congr 1
  funext x
  cases x <;> rfl

lemma mem_effects_of_launch {xs : List Effect} {id : OperationId} {t : Task} (h : .launch id (some t) ∈ deeds xs) :
    .spawn id t ∈ xs := by
  obtain ⟨x, hx, hd⟩ := List.mem_filterMap.mp h
  cases x <;> cases hd
  exact hx

lemma told?_answers (c : Content) : c.answers.filterMap Deed.told? = [] := by
  cases c with
  | pollCompletion ids subscribers => simp [Content.answers, Deed.told?]
  | _ => rfl

lemma told?_map_tell (told : List EventSet) : (told.map Deed.tell).filterMap Deed.told? = told := by
  simp [List.filterMap_map, Function.comp_def, Deed.told?]

lemma told?_launched {e : Engine} {told : List EventSet} {carried : EventSet} {ds : List Deed}
    (h : e.Launched told carried ds) : ds.filterMap Deed.told? = [] := by
  cases h with
  | nothing => rfl
  | head => rfl

lemma dispatched_of_deeds {xs : List Effect} {e : Engine} {c : Content} {told : List EventSet} {carried : EventSet}
    {ds : List Deed} (hl : e.Launched told carried ds) (hd : deeds xs = c.answers ++ told.map .tell ++ ds) :
    xs.filterMap Effect.dispatched? = told := by
  rw [filterMap_dispatched, hd, List.filterMap_append, List.filterMap_append, told?_answers, told?_map_tell,
    told?_launched hl, List.append_nil, List.nil_append]

lemma concat_eq_append_cons {α : Type} {l before after : List α} {x y : α} (h : l ++ [y] = before ++ x :: after) :
    after = [] ∧ y = x ∧ l = before ∨ ∃ after', after = after' ++ [y] ∧ l = before ++ x :: after' := by
  rcases List.eq_nil_or_concat' after with rfl | ⟨after', z, rfl⟩
  · obtain ⟨hl, hx⟩ := List.append_inj' h rfl
    cases hx
    exact .inl ⟨rfl, rfl, hl⟩
  · rw [← List.cons_append, ← List.append_assoc] at h
    obtain ⟨hl, hx⟩ := List.append_inj' h rfl
    cases hx
    exact .inr ⟨after', rfl, hl⟩

inductive Engine.Due (e : Engine) : Input → Prop
  | command (c : Command) : e.Due (.command c)
  | report (op : Operation) (rest : List Operation) (report : Report) (hq : e.queue.operations = op :: rest)
      (hk : report.kind = op.content.kind) : e.Due (.report op.id report)

def Input.told : Input → List EventSet
  | command _ => []
  | report _ r => r.told

lemma Engine.dispatched_of_due {e : Engine} {i : Input} (h : e.Settled) (he : e.effects = []) (hd : e.Due i) :
    (e.step i).effects.filterMap Effect.dispatched? = i.told := by
  cases hd with
  | command c =>
    cases hq : e.queue.operations with
    | nil =>
      obtain ⟨-, -, ds, hl, hx⟩ := turn_of_rest h hq c
      rw [he, deeds_nil, List.nil_append] at hx
      exact dispatched_of_deeds (c := .custom none) hl hx
    | cons op rest =>
      rw [filterMap_dispatched, (obeys_step h hq c).deeds, he]
      rfl
  | report op rest report hq hk =>
    obtain ⟨-, -, ds, hl, hx⟩ := turn_of_report h hq hk
    rw [he, deeds_nil, List.nil_append] at hx
    exact dispatched_of_deeds hl hx

namespace Replica

lemma foldl_perform {xs : List Effect} (h : ∀ id, .cancel id ∉ deeds xs) (underway : List (OperationId × Errand)) :
    xs.foldl perform underway = underway ++ launched (deeds xs) := by
  induction xs generalizing underway with
  | nil => simp [launched]
  | cons x xs ih =>
    have h' : ∀ id, .cancel id ∉ deeds xs := fun id hm => h id (by simp [hm])
    rw [List.foldl_cons, ih h', deeds_cons]
    cases x with
    | cancelTimer id => exact absurd (by simp [Effect.deed?]) (h id)
    | _ => simp [perform, Effect.deed?, launched, Deed.errand?, List.filterMap_cons]

/-- What is under way belongs to the running head. -/
inductive Sound (r : Replica) : Prop
  | rest (he : r.engine.effects = []) (hq : r.engine.queue.operations = []) (ht : r.engine.timer = none)
      (hu : r.underway = [])
  | busy (he : r.engine.effects = []) (op : Operation) (rest : List Operation) (x : Errand)
      (hq : r.engine.queue.operations = op :: rest) (hr : op.running = true)
      (ho : Orderly [op] rest r.engine.queue.issued)
      (ht : r.engine.timer = if op.content.kind = .collectGroups then some op.id else none)
      (hu : r.underway = [(op.id, x)]) (hk : x.kind = op.content.kind)

lemma Sound.settled {r : Replica} (h : r.Sound) : r.engine.Settled := by
  obtain ⟨-, hq, ht, -⟩ | ⟨-, op, rest, -, hq, hr, ho, ht, -⟩ := h
  · exact .rest hq ht
  · exact .busy op rest hq hr ho ht

lemma Sound.effects {r : Replica} (h : r.Sound) : r.engine.effects = [] := by
  cases h with
  | rest he => exact he
  | busy he => exact he

def turned (r : Replica) (i : Input) (underway : List (OperationId × Errand)) : Replica :=
  { r with
    engine := (r.engine.step i).takeEffects.2
    underway
    history := r.history ++ [.turn r.engine i] }

inductive Advance (r : Replica) : Replica → Prop
  | still : Advance r r
  | interfered (s : SharedStorage) (hs : r.storage.Known → s.Known) : Advance r { r with storage := s }
  | proceeded (op : Operation) (rest : List Operation) (x : Errand) (c : Circumstances)
      (hq : r.engine.queue.operations = op :: rest) (hu : r.underway = [(op.id, x)])
      (hk : x.kind = op.content.kind) :
      Advance r
        { r with
          storage := (x.proceed c r.storage).storage
          underway := [(op.id, (x.proceed c r.storage).errand)]
          history := r.history ++ ((x.proceed c r.storage).commit.map (.commit op.id)).toList }
  | commanded (op : Operation) (rest : List Operation) (x : Errand) (c : Command)
      (hq : r.engine.queue.operations = op :: rest) (hu : r.underway = [(op.id, x)])
      (ho : r.engine.Obeys (r.engine.step (.command c)) op rest c.resets)
      (hd : deeds (r.engine.step (.command c)).effects = []) :
      Advance r (r.turned (.command c) [(op.id, x)])
  | started (c : Command) (ds : List Deed) (hq : r.engine.queue.operations = []) (hu : r.underway = [])
      (hi : r.engine.queue.issued ≤ (r.engine.step (.command c)).queue.issued)
      (hl : (r.engine.step (.command c)).Launched [] .empty ds)
      (hd : deeds (r.engine.step (.command c)).effects = ds) :
      Advance r (r.turned (.command c) (launched ds))
  | reported (op : Operation) (rest : List Operation) (report : Report) (ds : List Deed)
      (hq : r.engine.queue.operations = op :: rest) (hu : r.underway = [(op.id, .report report)])
      (hk : report.kind = op.content.kind)
      (hi : r.engine.queue.issued ≤ (r.engine.step (.report op.id report)).queue.issued)
      (hl : (r.engine.step (.report op.id report)).Launched report.told report.carried ds)
      (hd : deeds (r.engine.step (.report op.id report)).effects =
        op.content.answers ++ report.told.map .tell ++ ds) :
      Advance r (r.turned (.report op.id report) (launched ds))

lemma Advance.turned_or {r r' : Replica} (h : r.Advance r') :
    (∃ i underway, r.engine.Due i ∧ r' = r.turned i underway) ∨
      r'.engine = r.engine ∧ (r'.history = r.history ∨ ∃ id what, r'.history = r.history ++ [.commit id what]) := by
  cases h with
  | still => exact .inr ⟨rfl, .inl rfl⟩
  | interfered s => exact .inr ⟨rfl, .inl rfl⟩
  | proceeded op rest x c =>
    refine .inr ⟨rfl, ?_⟩
    cases (x.proceed c r.storage).commit with
    | none => exact .inl (List.append_nil _)
    | some what => exact .inr ⟨op.id, what, rfl⟩
  | commanded op rest x c => exact .inl ⟨_, _, .command c, rfl⟩
  | started c => exact .inl ⟨_, _, .command c, rfl⟩
  | reported op rest report ds hq hu hk => exact .inl ⟨_, _, .report op rest report hq hk, rfl⟩

lemma Advance.history_cases {r r' : Replica} (h : r.Advance r') :
    r'.history = r.history ∨ ∃ x, r'.history = r.history ++ [x] := by
  obtain ⟨i, underway, -, rfl⟩ | ⟨-, h | ⟨id, what, h⟩⟩ := h.turned_or
  · exact .inr ⟨_, rfl⟩
  · exact .inl h
  · exact .inr ⟨_, h⟩

lemma Advance.turn_cases {r r' : Replica} {e : Engine} {i : Input} (ha : r.Advance r')
    (h : r'.history = r.history ++ [.turn e i]) :
    e = r.engine ∧
      ((∃ c, i = .command c ∧ ∀ d ∈ deeds (r.engine.step i).effects, ∃ id t, d = .launch id t) ∨
      ∃ op rest report ds, i = .report op.id report ∧ r.engine.queue.operations = op :: rest ∧
        r.underway = [(op.id, .report report)] ∧
        (r.engine.step i).Launched report.told report.carried ds ∧
        deeds (r.engine.step i).effects = op.content.answers ++ report.told.map .tell ++ ds) := by
  cases ha with
  | still => exact absurd h (by simp)
  | interfered s => exact absurd h (by simp)
  | proceeded op rest x c =>
    cases hc : (x.proceed c r.storage).commit <;> simp [hc] at h
  | commanded op rest x c hq hu ho hd =>
    obtain ⟨rfl, rfl⟩ : r.engine = e ∧ .command c = i := by simpa [turned] using h
    exact ⟨rfl, .inl ⟨c, rfl, by rw [hd]; exact List.forall_mem_nil _⟩⟩
  | started c ds hq hu hi hl hd =>
    obtain ⟨rfl, rfl⟩ : r.engine = e ∧ .command c = i := by simpa [turned] using h
    refine ⟨rfl, .inl ⟨c, rfl, ?_⟩⟩
    rw [hd]
    cases hl with
    | nothing => exact List.forall_mem_nil _
    | head => exact List.forall_mem_singleton.mpr ⟨_, _, rfl⟩
  | reported op rest report ds hq hu hk hi hl hd =>
    obtain ⟨rfl, rfl⟩ : r.engine = e ∧ .report op.id report = i := by simpa [turned] using h
    exact ⟨rfl, .inr ⟨op, rest, report, ds, rfl, hq, hu, hl, hd⟩⟩

lemma sound_new (retryDelay : Nat) (storage : SharedStorage) : (new retryDelay storage).Sound :=
  .rest rfl rfl rfl rfl

section

variable {r : Replica} {i : Input} {e' : Engine} {told : List EventSet} {carried : EventSet} {ds : List Deed}

lemma launched_of (h : e'.Launched told carried ds) :
    e'.queue.operations = [] ∧ launched ds = [] ∨
      ∃ op rest c, e'.queue.operations = op :: rest ∧ launched ds = [(op.id, Content.errand c)] ∧
        c.errand.kind = op.content.kind ∧
        (op.content.kind = .pollDifference → c = .pollDifference carried) := by
  cases h with
  | nothing hq => exact .inl ⟨hq, rfl⟩
  | head op rest c hq hk hw hc =>
    exact .inr ⟨op, rest, c, hq, rfl, hw.kind_errand.trans hk.symm, fun h => hc (hk.symm.trans h)⟩

lemma feed_turn (he : r.engine.effects = []) (hu : r.underway = []) (c : Content)
    (h : r.engine.Turn (r.engine.step i) c.answers told carried) :
    (r.feed i).Sound ∧ ∃ ds, r.feed i = r.turned i (launched ds) ∧
      (r.engine.step i).Launched told carried ds ∧
      deeds (r.engine.step i).effects = c.answers ++ told.map .tell ++ ds := by
  obtain ⟨hs, hi, ds, hl, hd⟩ := h
  rw [he, deeds_nil, List.nil_append] at hd
  have ha : ∀ d ∈ c.answers ++ told.map .tell, d.errand? = none ∧ ∀ id, d ≠ .cancel id := by
    rw [List.forall_mem_append]
    refine ⟨fun d hm => ?_, fun d hm => ?_⟩
    · cases c with
      | pollCompletion ids subscribers =>
        obtain ⟨s, -, rfl⟩ := List.mem_map.mp hm
        exact ⟨rfl, by rintro _ ⟨⟩⟩
      | _ => cases hm
    · obtain ⟨ev, -, rfl⟩ := List.mem_map.mp hm
      exact ⟨rfl, by rintro _ ⟨⟩⟩
  have hc : ∀ id, .cancel id ∉ deeds (r.engine.step i).effects := by
    intro id hm
    rw [hd] at hm
    rcases List.mem_append.mp hm with hm | hm
    · exact (ha _ hm).2 id rfl
    · cases hl with
      | nothing => cases hm
      | head => simp at hm
  have hld : launched (deeds (r.engine.step i).effects) = launched ds := by
    have hn : (c.answers ++ told.map Deed.tell).filterMap Deed.errand? = [] :=
      List.filterMap_eq_nil_iff.mpr fun d hm => (ha d hm).1
    simp only [launched]
    rw [hd, List.filterMap_append, hn, List.nil_append]
  have hf : r.feed i = r.turned i (launched ds) := by
    have := foldl_perform hc r.underway
    rw [hld, hu, List.nil_append] at this
    simp only [feed, turned, Engine.takeEffects, hu, this]
  refine ⟨?_, ds, hf, hl, hd⟩
  rw [hf]
  rcases launched_of hl with ⟨hq, hn⟩ | ⟨op, rest, c', hq, hn, hk, -⟩
  · exact .rest rfl hq (hs.timer_of_empty hq) hn
  · obtain ⟨hr, ho, ht⟩ := hs.head hq
    exact .busy rfl op rest c'.errand hq hr ho ht hn hk

end

lemma advance_command {r : Replica} (h : r.Sound) (c : Command) :
    r.Advance (r.feed (.command c)) ∧ (r.feed (.command c)).Sound := by
  obtain ⟨he, hq, ht, hu⟩ | ⟨he, op, rest, x, hq, hr, ho, ht, hu, hk⟩ := h
  · have hturn := Engine.turn_of_rest (.rest hq ht) hq c
    obtain ⟨hs, ds, hf, hl, hd⟩ := feed_turn he hu (.custom none) hturn
    refine ⟨?_, hs⟩
    rw [hf]
    exact .started c ds hq hu hturn.issued hl hd
  · have hob := Engine.obeys_step (.busy op rest hq hr ho ht) hq c
    have hd : deeds (r.engine.step (.command c)).effects = [] := by rw [hob.deeds, he, deeds_nil]
    have hf : r.feed (.command c) = r.turned (.command c) [(op.id, x)] := by
      have := foldl_perform (by rw [hd]; exact fun _ => List.not_mem_nil) r.underway
      rw [hd, hu, launched, List.filterMap_nil, List.append_nil] at this
      simp only [feed, turned, Engine.takeEffects, hu, this]
    obtain ⟨op', rest', hq', ha, ho', hv⟩ := hob.queue
    rw [hf]
    refine ⟨.commanded op rest x c hq hu hob hd, .busy rfl op' rest' x hq' (ha.running.trans hr) ho' ?_ ?_ ?_⟩
    · exact hob.timer.trans (by rw [ht, ha.kind, ha.id])
    · rw [ha.id]
      rfl
    · exact hk.trans ha.kind.symm

lemma advance_report {r : Replica} {op : Operation} {rest : List Operation} {report : Report}
    (h : r.Sound) (hq : r.engine.queue.operations = op :: rest) (hu : r.underway = [(op.id, .report report)])
    (hk : report.kind = op.content.kind) :
    r.Advance ({ r with underway := [] }.feed (.report op.id report)) ∧
      ({ r with underway := [] }.feed (.report op.id report)).Sound := by
  have hturn := Engine.turn_of_report h.settled hq hk
  obtain ⟨hs, ds, hf, hl, hd⟩ := feed_turn (r := { r with underway := [] }) h.effects rfl op.content hturn
  refine ⟨?_, hs⟩
  rw [hf]
  exact .reported op rest report ds hq hu hk hturn.issued hl hd

theorem advance {r : Replica} (h : r.Sound) (m : Move) : r.Advance (r.move m) ∧ (r.move m).Sound := by
  cases m with
  | command c => exact advance_command h c
  | proceed n c =>
    obtain ⟨he, hq, ht, hu⟩ | ⟨he, op, rest, x, hq, hr, ho, ht, hu, hk⟩ := id h
    · simp only [move, hu, List.getElem?_nil]
      exact ⟨.still, h⟩
    · cases n with
      | zero =>
        simp only [move, hu, List.getElem?_cons_zero, List.set_cons_zero]
        exact ⟨.proceeded op rest x c hq hu hk,
          .busy he op rest _ hq hr ho ht rfl ((x.kind_proceed c r.storage).trans hk)⟩
      | succ n =>
        simp only [move, hu, List.getElem?_cons_succ, List.getElem?_nil]
        exact ⟨.still, h⟩
  | deliver n =>
    obtain ⟨-, -, -, hu⟩ | ⟨-, op, rest, x, hq, -, -, -, hu, hk⟩ := id h
    · simp only [move, hu, List.getElem?_nil]
      exact ⟨.still, h⟩
    · cases n with
      | zero =>
        simp only [move, hu, List.getElem?_cons_zero]
        split
        · next id report hx =>
          cases hx
          exact advance_report h hq hu hk
        · exact ⟨.still, h⟩
      | succ n =>
        simp only [move, hu, List.getElem?_cons_succ, List.getElem?_nil]
        exact ⟨.still, h⟩
  | interfere s =>
    simp only [move]
    split
    · next hs =>
      refine ⟨.interfered s hs, ?_⟩
      obtain ⟨he, hq, ht, hu⟩ | ⟨he, op, rest, x, hq, hr, ho, ht, hu, hk⟩ := h
      · exact .rest he hq ht hu
      · exact .busy he op rest x hq hr ho ht hu hk
    · exact ⟨.still, h⟩

theorem sound_of_run (retryDelay : Nat) (storage : SharedStorage) (moves : List Move) :
    ((new retryDelay storage).run moves).Sound := by
  have key : ∀ r : Replica, r.Sound → (r.run moves).Sound := by
    induction moves with
    | nil => exact fun r h => h
    | cons m moves ih => exact fun r h => ih (r.move m) (advance h m).2
  exact key _ (sound_new retryDelay storage)

/-- What holds of a new replica and is kept by each advance holds in the course of every run. -/
theorem run_induct {motive : Replica → Prop} {retryDelay : Nat} {storage : SharedStorage}
    (base : motive (new retryDelay storage))
    (step : ∀ r r', r.Sound → r.Advance r' → motive r → motive r') (moves : List Move) :
    motive ((new retryDelay storage).run moves) := by
  have key : ∀ r : Replica, r.Sound → motive r → motive (r.run moves) := by
    induction moves with
    | nil => exact fun r _ h => h
    | cons m moves ih =>
      intro r hs h
      obtain ⟨ha, hs'⟩ := advance hs m
      exact ih (r.move m) hs' (step r _ hs ha h)
  exact key _ (sound_new retryDelay storage) base

theorem due_of_turn {retryDelay : Nat} {storage : SharedStorage} {moves : List Move} {e : Engine} {i : Input}
    (h : .turn e i ∈ ((new retryDelay storage).run moves).history) :
    e.Settled ∧ e.effects = [] ∧ e.Due i := by
  revert e i
  refine run_induct (motive := fun r => ∀ {e i}, .turn e i ∈ r.history → e.Settled ∧ e.effects = [] ∧ e.Due i)
    (fun h => absurd h List.not_mem_nil) ?_ moves
  intro r r' hs ha ih e i h
  obtain ⟨j, underway, hj, rfl⟩ | ⟨-, he | ⟨id, what, he⟩⟩ := ha.turned_or
  · rcases List.mem_append.mp h with h | h
    · exact ih h
    · cases List.mem_singleton.mp h
      exact ⟨hs.settled, hs.effects, hj⟩
  · exact ih (he ▸ h)
  · rw [he] at h
    exact ih (by simpa using h)

theorem advance_of_entry {motive : Replica → Prop} {retryDelay : Nat} {storage : SharedStorage} {moves : List Move}
    {before after : List Entry} {x : Entry} (base : motive (new retryDelay storage))
    (step : ∀ r r', r.Sound → r.Advance r' → motive r → motive r')
    (h : ((new retryDelay storage).run moves).history = before ++ x :: after) :
    ∃ r r' : Replica, motive r ∧ r.Advance r' ∧ r.history = before ∧ r'.history = before ++ [x] := by
  revert before after x
  refine (run_induct (motive := fun r => motive r ∧ ∀ {before after x}, r.history = before ++ x :: after →
    ∃ r r' : Replica, motive r ∧ r.Advance r' ∧ r.history = before ∧ r'.history = before ++ [x])
    ⟨base, fun h => absurd h (by simp [new])⟩ ?_ moves).2
  rintro r r' hs ha ⟨hm, ih⟩
  refine ⟨step r r' hs ha hm, fun h => ?_⟩
  rcases ha.history_cases with he | ⟨y, he⟩
  · exact ih (he.symm.trans h)
  · rcases concat_eq_append_cons (he.symm.trans h) with ⟨-, rfl, hb⟩ | ⟨after', -, h'⟩
    · exact ⟨r, r', hm, ha, hb, hb ▸ he⟩
    · exact ih h'

end Replica

end AccountReplica
