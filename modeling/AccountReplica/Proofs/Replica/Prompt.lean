import AccountReplica.Proofs.Engine.Announcements
import AccountReplica.Proofs.Replica.Sound

/-! Event sets are told in the turn that brings them, before anything else is started. -/

namespace AccountReplica

namespace Engine

def flushed (e : Engine) : List EventSet :=
  e.queue.operations.flatMap fun op => if op.running then [] else op.content.told

variable {e e' : Engine} {op : Operation} {rest : List Operation}

lemma told_behind {lead : List Operation} {issued : Nat} (ho : Orderly lead rest issued) :
    (rest.flatMap fun op => if op.running then [] else op.content.told) = [] := by
  rw [List.flatMap_eq_nil_iff]
  intro op hm
  rw [(ho.waits op hm).2.told, ite_self]

lemma Ready.flushed (h : e.Ready) : e.flushed = e.told := by
  cases h with
  | rest hq => simp [Engine.flushed, Engine.told, front, hq]
  | first op rest hq hi hw ho =>
    rw [told_cons hq, Engine.flushed, hq, List.flatMap_cons, told_behind ho, List.append_nil, hi]
    rfl

lemma flushed_running (hq : e.queue.operations = op :: rest) (hr : op.running = true)
    (ho : Orderly [op] rest e.queue.issued) : e.flushed = [] := by
  rw [flushed, hq, List.flatMap_cons, told_behind ho, List.append_nil, hr]
  rfl

/-- What the turn dispatches is what its input has flushed. It tells all that these event sets announce, nothing of the
sort besides, and comes before anything is launched. -/
structure Prompt (e : Engine) (i : Input) : Prop where
  dispatched : (e.step i).effects.filterMap Effect.dispatched? = (e.receive i).flushed
  told : ∃ told : List (OperationId × EventSet), told.map (·.2) = (e.receive i).flushed ∧
    (e.step i).effects.filter Effect.tells = told.flatMap (e.step i).telling
  first : ∀ xs x ys, (e.step i).effects = xs ++ x :: ys → x.Launches → ∀ y ∈ ys, y.tells = false

lemma dispatched?_of_tells {x : Effect} (h : x.tells = false) : x.dispatched? = none := by
  cases x <;> first | rfl | cases h

lemma tells_of_mem_telling {x : OperationId × EventSet} {y : Effect} (h : y ∈ e.telling x) :
    y.tells = true ∧ ¬y.Launches := by
  rcases List.mem_cons.mp h with rfl | h
  · exact ⟨rfl, not_false⟩
  · have ha := announces_of_mem h
    cases y with
    | spawn | armTimer => cases ha
    | dispatch => cases ha
    | _ => exact ⟨ha, not_false⟩

lemma dispatched?_telling (x : OperationId × EventSet) : (e.telling x).filterMap Effect.dispatched? = [x.2] := by
  have hn : (e.announcements x.2).filterMap Effect.dispatched? = [] := by
    refine List.filterMap_eq_nil_iff.mpr fun y hm => ?_
    have ha := announces_of_mem hm
    cases y <;> first | rfl | cases ha
  simp [telling, Effect.dispatched?, hn]

lemma prompt_of_dispatched {i : Input} (he : e.effects = [])
    (hd : (e.step i).effects.filterMap Effect.dispatched? = (e.receive i).flushed) : e.Prompt i := by
  obtain ⟨before, told, after, hx, hb, ha⟩ := told_step e i
  rw [he, List.nil_append] at hx
  have ht : ∀ y ∈ told.flatMap (e.step i).telling, y.tells = true ∧ ¬y.Launches := by
    intro y hm
    obtain ⟨x, -, hm⟩ := List.mem_flatMap.mp hm
    exact tells_of_mem_telling hm
  refine ⟨hd, ⟨told, ?_, ?_⟩, fun xs x ys he hl => ?_⟩
  · rw [← hd, hx, List.filterMap_append, List.filterMap_append, List.filterMap_flatMap]
    have hbn : before.filterMap Effect.dispatched? = [] :=
      List.filterMap_eq_nil_iff.mpr fun y hm => dispatched?_of_tells (hb y hm).1
    have han : after.filterMap Effect.dispatched? = [] :=
      List.filterMap_eq_nil_iff.mpr fun y hm => dispatched?_of_tells (ha y hm)
    simp only [hbn, han, dispatched?_telling, List.nil_append, List.append_nil]
    exact List.map_eq_flatMap
  · have hbn : before.filter Effect.tells = [] :=
      List.filter_eq_nil_iff.mpr fun y hm => by simp [(hb y hm).1]
    have han : after.filter Effect.tells = [] := List.filter_eq_nil_iff.mpr fun y hm => by simp [ha y hm]
    rw [hx, List.filter_append, List.filter_append, hbn, han, List.filter_eq_self.mpr fun y hm => (ht y hm).1,
      List.nil_append, List.append_nil]
  · -- Neither what comes at once nor a told event set launches anything.
    have hn : x ∉ before ++ told.flatMap (e.step i).telling := by
      intro hm
      rcases List.mem_append.mp hm with hm | hm
      · exact (hb x hm).2 hl
      · exact (ht x hm).2 hl
    rcases List.append_eq_append_iff.mp (hx.symm.trans he) with ⟨zs, -, hz⟩ | ⟨zs, hz, hy⟩
    · exact fun y hm => ha y (hz ▸ List.mem_append_right zs (List.mem_cons_of_mem x hm))
    · cases zs with
      | nil =>
        have hy' : x :: ys = after := hy
        exact fun y hm => ha y (hy' ▸ List.mem_cons_of_mem x hm)
      | cons z zs =>
        obtain ⟨rfl, -⟩ := List.cons.inj hy
        exact absurd (hz ▸ List.mem_append_right xs List.mem_cons_self) hn

lemma prompt_of_deeds {i : Input} {c : Content} {told : List EventSet} {ds : List Deed} (he : e.effects = [])
    (hd : deeds (e.step i).effects = c.answers ++ told.map .tell ++ ds)
    (hs : ds = [] ∨ ∃ id t, ds = [.launch id t]) (hf : (e.receive i).flushed = told) : e.Prompt i := by
  refine prompt_of_dispatched he ?_
  have hn : ds.filterMap Deed.told? = [] := by
    rcases hs with rfl | ⟨id, t, rfl⟩ <;> rfl
  rw [filterMap_dispatched, hd, List.filterMap_append, List.filterMap_append, told?_answers, told?_map_tell, hn, hf,
    List.append_nil, List.nil_append]

lemma Launched.deeds {told : List EventSet} {carried : EventSet} {ds : List Deed} (h : e.Launched told carried ds) :
    ds = [] ∨ ∃ id t, ds = [.launch id t] := by
  cases h with
  | nothing => exact .inl rfl
  | head => exact .inr ⟨_, _, rfl⟩

lemma flushed_of_report {report : Report} (h : e.Settled) (hq : e.queue.operations = op :: rest)
    (hk : report.kind = op.content.kind) : (e.receive (.report op.id report)).flushed = report.told := by
  obtain ⟨hr, ho, ht⟩ := h.head hq
  have hh := handles_report hq hr ho ht hk
  exact hh.ready.flushed.trans hh.told

lemma prompt_of_due {i : Input} (h : e.Settled) (he : e.effects = []) (hd : e.Due i) : e.Prompt i := by
  cases hd with
  | command c =>
    obtain ⟨hq, ht⟩ | ⟨op, rest, hq, hr, ho, ht⟩ := id h
    · obtain ⟨-, -, ds, hl, hx⟩ := turn_of_rest h hq c
      rw [he, deeds_nil, List.nil_append] at hx
      have hw := (waiting_command hq ht c).1
      exact prompt_of_deeds (c := .custom none) he hx hl.deeds (hw.ready.flushed.trans hw.told)
    · have hx : deeds (e.step (.command c)).effects = (Content.custom none).answers ++ [].map .tell ++ [] := by
        rw [(obeys_step h hq c).deeds, he]
        rfl
      obtain ⟨op', rest', hq', ha, ho', -⟩ := (obeys_command hq hr ho c).queue
      exact prompt_of_deeds he hx (.inl rfl) (flushed_running hq' (ha.running.trans hr) ho')
  | report op rest report hq hk =>
    obtain ⟨-, -, ds, hl, hx⟩ := turn_of_report h hq hk
    rw [he, deeds_nil, List.nil_append] at hx
    exact prompt_of_deeds he hx hl.deeds (flushed_of_report h hq hk)

end Engine

def Entry.flushed : Entry → List EventSet
  | turn e i => (e.receive i).flushed
  | commit .. => []

namespace Replica

structure TellsAtOnce (r : Replica) : Prop where
  first : ∀ op ∈ r.engine.queue.operations, op.content.kind = .processEvents ∨ op.content.kind = .processGroups →
    op.running = true ∧ r.engine.queue.operations.head? = some op
  polls : (r.engine.queue.operations.filter fun op =>
    !op.running && op.content.kind = .pollDifference).length ≤ 1
  carried : ∀ op ∈ r.engine.queue.operations, op.running = false →
    ∀ events, op.content = .pollDifference events → events = .empty
  prompt : ∀ e i, .turn e i ∈ r.history → e.Prompt i
  flushed : ∀ e id report, .turn e (.report id report) ∈ r.history →
    (e.receive (.report id report)).flushed = report.told
  order : r.history.flatMap Entry.dispatched = r.history.flatMap Entry.flushed

lemma not_waits {c : Content} (h : c.kind = .processEvents ∨ c.kind = .processGroups) : ¬c.Waits := by
  cases c <;> simp_all [Content.kind, Content.Waits]

/-- Event sets are dispatched in the turns that bring them, in the order of these turns and before anything else
is started; neither they nor batches ever wait behind another operation. -/
theorem tellsAtOnce_of_run (retryDelay : Nat) (storage : SharedStorage) (moves : List Move) :
    ((new retryDelay storage).run moves).TellsAtOnce := by
  have hp : ∀ e i, .turn e i ∈ ((new retryDelay storage).run moves).history → e.Prompt i := by
    intro e i h
    obtain ⟨hs, he, hd⟩ := due_of_turn h
    exact Engine.prompt_of_due hs he hd
  have hf : ∀ e id report, .turn e (.report id report) ∈ ((new retryDelay storage).run moves).history →
      (e.receive (.report id report)).flushed = report.told := by
    intro e id report h
    obtain ⟨hs, -, hd⟩ := due_of_turn h
    cases hd with
    | report op rest _ hq hk => exact Engine.flushed_of_report hs hq hk
  have ho : ((new retryDelay storage).run moves).history.flatMap Entry.dispatched =
      ((new retryDelay storage).run moves).history.flatMap Entry.flushed := by
    refine List.flatMap_congr fun x hx => ?_
    cases x with
    | turn e i => exact (hp e i hx).dispatched
    | commit id what => rfl
  obtain ⟨-, hq, -, -⟩ | ⟨-, op, rest, x, hq, hr, hord, -, -, -⟩ := sound_of_run retryDelay storage moves
  · refine ⟨?_, ?_, ?_, hp, hf, ho⟩ <;> rw [hq]
    · exact List.forall_mem_nil _
    · exact Nat.zero_le 1
    · exact List.forall_mem_nil _
  · refine ⟨?_, ?_, ?_, hp, hf, ho⟩ <;> rw [hq]
    · refine List.forall_mem_cons.mpr ⟨fun _ => ⟨hr, rfl⟩, fun op' hm hk => ?_⟩
      exact absurd (hord.waits op' hm).2 (not_waits hk)
    · rw [List.filter_cons_of_neg (by simp [hr]), ← List.countP_eq_length_filter]
      refine Nat.le_trans (List.countP_mono_left fun op' _ hp => ?_) hord.polls
      rw [Bool.and_eq_true] at hp
      exact hp.2
    · refine List.forall_mem_cons.mpr ⟨fun hi => by simp [hr] at hi, fun op' hm _ ev hc => ?_⟩
      have := (hord.waits op' hm).2
      rw [hc] at this
      exact this

end Replica

end AccountReplica
