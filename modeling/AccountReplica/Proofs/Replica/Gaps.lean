import AccountReplica.Proofs.Replica.Batches
import AccountReplica.Proofs.Replica.Pushes

/-! Groups behind a gap: they wait in an operation of their own, and when that is over a difference is asked for. A
delay of zero makes them look like groups that were just pushed. -/

namespace AccountReplica

lemma Report.restarts_of_returned {r : Report} (h : r.returned ≠ []) (c : Content) : r.restarts c = false := by
  have hg {g : GroupReplay} (hn : g.returned ≠ []) : g.shouldPoll = false := by
    by_contra hp
    exact hn (if_pos (by simpa using hp))
  cases r with
  | groupsReplayed result | precomputedReplayed result =>
    cases result with
    | ok g => exact hg h
    | error error => exact absurd rfl h
  | _ => exact absurd rfl h

namespace Engine

structure GivesUp (e : Engine) (i : Input) (id : OperationId) : Prop where
  gone : ∀ op ∈ (e.step i).queue.operations, op.id ≠ id
  handed : handed (e.step i).effects = []
  held : ∀ op ∈ (e.step i).queue.operations, op.held ≠ [] → op ∈ e.queue.operations
  polls : (e.step i).Polls

def Loses (e : Engine) (i : Input) (id : OperationId) : Prop :=
  (∃ op ∈ e.queue.operations, op.id = id) ∧ ∀ op ∈ (e.step i).queue.operations, op.id ≠ id

structure Collects (e : Engine) (id : OperationId) (groups : List UpdateGroup) (delay : Nat) : Prop where
  holds : ∀ op ∈ e.queue.operations, op.id = id → ∃ more, op.content = .collectGroups (groups ++ more) delay
  issued : id.val ≤ e.queue.issued

variable {e : Engine} {i : Input} {id : OperationId} {groups : List UpdateGroup} {delay : Nat} {op : Operation}
  {rest : List Operation}

lemma collects_of_stems {ops : List Operation} {issued : Nat} (hs : Stems ops e.queue.operations issued)
    (ho : ∀ op ∈ ops, op.id = id → ∃ more, op.content = .collectGroups (groups ++ more) delay)
    (hi : id.val ≤ issued) (hle : issued ≤ e.queue.issued) : e.Collects id groups delay where
  holds op' hm hid := by
    rcases hs op' hm with ⟨op, hm, hg⟩ | hlt
    · obtain ⟨more, hc⟩ := ho op hm (hg.id.symm.trans hid)
      obtain ⟨more', hc'⟩ := hg.collects _ _ hc
      exact ⟨more ++ more', by rw [hc', List.append_assoc]⟩
    · rw [hid] at hlt
      omega
  issued := Nat.le_trans hi hle

lemma Collects.step (h : e.Collects id groups delay) (hs : e.Settled) (he : e.effects = []) (hd : e.Due i) :
    (e.step i).Collects id groups delay :=
  collects_of_stems (groupTurn_of_due hs he hd).old h.holds h.issued (issued_step hs he hd)

lemma Ready.nodup (h : e.Ready) : (e.queue.operations.map (·.id)).Nodup := by
  cases h with
  | rest hq => rw [hq]; exact List.nodup_nil
  | first op rest hq hi hw ho => rw [hq]; exact ho.nodup

def awaits (e : Engine) (i : Input) : Operation :=
  ⟨⟨(e.receive i).queue.issued⟩, .collectGroups i.returned e.retryDelay, false⟩

lemma last_receive {r : Report} (h : e.Settled) (hq : e.queue.operations = op :: rest) (hk : r.kind = op.content.kind)
    (hr : r.restarts op.content = false) (hn : r.returned ≠ []) :
    (e.receive (.report op.id r)).queue.operations.getLast? = some (e.awaits (.report op.id r)) := by
  obtain ⟨⟨front, -, -, hops⟩, -⟩ := requeues_report h hq hk
  have ha : awaiting r.returned e.retryDelay (e.report op.id r).queue.issued = [e.awaits (.report op.id r)] :=
    if_neg (by simpa using hn)
  rw [hr] at hops
  have hops' : (e.report op.id r).queue.operations =
      front ++ (rest ++ awaiting r.returned e.retryDelay (e.report op.id r).queue.issued) := hops
  rw [receive, hops', ha, ← List.append_assoc, List.getLast?_concat]

lemma collects_awaits {r : Report} (h : e.Settled) (he : e.effects = []) (hq : e.queue.operations = op :: rest)
    (hk : r.kind = op.content.kind) (hr : r.restarts op.content = false) (hn : r.returned ≠ []) :
    (e.step (.report op.id r)).Collects (e.awaits (.report op.id r)).id r.returned e.retryDelay := by
  obtain ⟨hh, -⟩ := hands_step h he (.report op rest r hq hk)
  refine collects_of_stems hh.yields.old (fun x hm hid => ⟨[], ?_⟩) (Nat.le_refl _) hh.issued
  -- Identifiers are unique, so that it is the one that was inserted last.
  obtain ⟨hr', ho, ht⟩ := h.head hq
  have hl := List.mem_of_getLast? (last_receive h hq hk hr hn)
  have hx := List.inj_on_of_nodup_map (handles_report hq hr' ho ht hk).ready.nodup hm hl hid
  rw [hx, List.append_nil]
  rfl

lemma handed_timerFired (h : e.Settled) (he : e.effects = []) (hq : e.queue.operations = op :: rest)
    (hc : op.content = .collectGroups groups 0) :
    handed (e.step (.report op.id .timerFired)).effects = groups := by
  obtain ⟨hr, ho, ht⟩ := h.head hq
  have hf : ({ e with timer := none } : Engine).finish? op.id = some (op.content, e.popped rest) :=
    finish?_head (e := { e with timer := none }) hq hr rfl
  rw [hc] at ht hf
  have hrep : e.report op.id .timerFired =
      { e.popped rest with queue := ((e.popped rest).queue.insertFirst (.processGroups groups)).2 } := by
    simp only [report, timerFired, ht, Content.kind, if_true, ne_eq, not_true_eq_false, if_false, hf]
  have hops := (waiting_popped ho).insertFirst_operations (.processGroups groups)
  have hstart : (e.report op.id .timerFired).startFirst.effects =
      [.spawn (e.popped rest).queue.nextId (.replayGroups groups)] := by
    rw [hrep, startFirst_of_start hops rfl rfl]
    simp [emit, run, popped, drop, he]
  have hs := silent_refreshUpdating (e.report op.id .timerFired).startFirst
  rw [step, receive, handed_of_deeds hs.deeds, hstart]
  exact List.append_nil groups

namespace Collects

lemma head (h : e.Collects id groups delay) (hd : e.Due (.report id .timerFired)) :
    ∃ op rest more, e.queue.operations = op :: rest ∧ op.id = id ∧
      op.content = .collectGroups (groups ++ more) delay := by
  cases hd with
  | report op rest r hq =>
    obtain ⟨more, hc⟩ := h.holds op (by rw [hq]; exact List.mem_cons_self) rfl
    exact ⟨op, rest, more, hq, rfl, hc⟩

/-- Without a delay the timer is taken for that of groups which were just pushed. -/
lemma handed (h : e.Collects id groups 0) (hs : e.Settled) (he : e.effects = [])
    (hd : e.Due (.report id .timerFired)) :
    ∃ more, handed (e.step (.report id .timerFired)).effects = groups ++ more := by
  obtain ⟨op, rest, more, hq, rfl, hc⟩ := h.head hd
  exact ⟨more, handed_timerFired hs he hq hc⟩

lemma timer_or_restarts (h : e.Collects id groups delay) (hs : e.Settled) (he : e.effects = [])
    (hd : e.Due i) (hl : e.Loses i id) : i = .report id .timerFired ∨ e.restarts i = true := by
  obtain ⟨⟨op, hm, hid⟩, hgone⟩ := hl
  cases hr : e.restarts i with
  | true => exact .inr rfl
  | false =>
    obtain ⟨more, hc⟩ := h.holds op hm hid
    have hk : op.content.kind = .collectGroups := by rw [hc]; rfl
    rcases (groupTurn_of_due hs he hd).still hr op hm (.inr hk) with ⟨op', hm', hg⟩ | ⟨r, rfl, hk'⟩
    · exact absurd (hg.id.trans hid) (hgone op' hm')
    · left
      rw [hid]
      cases r <;> first | rfl | cases hk'.trans hk

lemma restarts (h : e.Collects id groups delay) (hs : e.Settled) (he : e.effects = []) (hd : e.Due i)
    (hl : e.Loses i id ∨ i = .report id .timerFired) (hz : i = .report id .timerFired → delay ≠ 0) :
    e.restarts i = true := by
  rcases hl.elim (h.timer_or_restarts hs he hd) .inl with rfl | hr
  · obtain ⟨op, rest, more, hq, -, hc⟩ := h.head hd
    rw [restarts_report hq, hc]
    exact decide_eq_true (hz rfl)
  · exact hr

lemma givesUp (h : e.Collects id groups delay) (hs : e.Settled) (he : e.effects = []) (hd : e.Due i)
    (hn : groups ≠ []) (hl : e.Loses i id ∨ i = .report id .timerFired) (hz : i = .report id .timerFired → delay ≠ 0) :
    e.GivesUp i id := by
  have ht := groupTurn_of_due hs he hd
  have hr := h.restarts hs he hd hl hz
  obtain ⟨hnone, -, hheld⟩ := ht.dropped hr
  refine ⟨?_, hnone, hheld, polls_of_restarts ht hr⟩
  rcases hl with hl | rfl
  · exact hl.2
  · intro op hm hid
    obtain ⟨more, hc⟩ := (h.step hs he hd).holds op hm hid
    have hnot := heldBy_eq_nil.mp (ht.cleared hr _ _ rfl) op hm
    simp [Operation.held, hc, hn] at hnot

end Collects

end Engine

namespace Replica

def FallsBack (id : OperationId) (after : List Entry) : Prop :=
  ∀ e i, .turn e i ∈ after → e.Loses i id ∨ i = .report id .timerFired → e.GivesUp i id

def HoldsGaps (r : Replica) : Prop :=
  ∀ before e id report after, r.history = before ++ .turn e (.report id report) :: after → report.returned ≠ [] →
    r.engine.Collects (e.awaits (.report id report)).id report.returned e.retryDelay ∧
      ∀ e' i, .turn e' i ∈ after → e'.Collects (e.awaits (.report id report)).id report.returned e.retryDelay

lemma holdsGaps_advance {r r' : Replica} (hs : r.Sound) (ha : r.Advance r') (h : r.HoldsGaps) : r'.HoldsGaps := by
  intro before e id report after hh hn
  obtain ⟨i, underway, hd, rfl⟩ | ⟨he, hr | ⟨id', what, hr⟩⟩ := ha.turned_or
  · rcases concat_eq_append_cons hh with ⟨rfl, hx, -⟩ | ⟨after', rfl, hh'⟩
    · cases hx
      cases hd with
      | report op rest report hq hk =>
        have hc := Engine.collects_awaits hs.settled hs.effects hq hk (Report.restarts_of_returned hn _) hn
        exact ⟨⟨hc.holds, hc.issued⟩, fun _ _ hm => absurd hm List.not_mem_nil⟩
    · obtain ⟨hc, hall⟩ := h before e id report after' hh' hn
      have hc' := hc.step hs.settled hs.effects hd
      refine ⟨⟨hc'.holds, hc'.issued⟩, fun e' j hm => ?_⟩
      rcases List.mem_append.mp hm with hm | hm
      · exact hall e' j hm
      · cases List.mem_singleton.mp hm
        exact hc
  · rw [he]
    exact h before e id report after (hr.symm.trans hh) hn
  · rcases concat_eq_append_cons (hr.symm.trans hh) with ⟨-, hx, -⟩ | ⟨after', rfl, hh'⟩
    · cases hx
    · obtain ⟨hc, hall⟩ := h before e id report after' hh' hn
      rw [he]
      refine ⟨hc, fun e' j hm => hall e' j ?_⟩
      simpa using hm

lemma holdsGaps_of_run (retryDelay : Nat) (storage : SharedStorage) (moves : List Move) :
    ((new retryDelay storage).run moves).HoldsGaps :=
  run_induct (motive := HoldsGaps) (fun _ _ _ _ _ hh => absurd hh (by simp [new]))
    (fun _ _ hs ha h => holdsGaps_advance hs ha h) moves

lemma returned_of_batch? {report : Report} {g : GroupReplay} (hb : report.batch? = some g) (hp : g.shouldPoll = false) :
    report.returned = g.remaining := by
  have hg : g.returned = g.remaining := if_neg (by simp [hp])
  cases report with
  | groupsReplayed result | precomputedReplayed result =>
    cases result with
    | ok g' =>
      cases hb
      exact hg
    | error error => cases hb
  | _ => cases hb

/-- The groups that a committed batch left behind a gap stay in an operation of their own, which takes further pushes at
most, and they are given up for a difference unless a timer without a delay fires for them. -/
theorem fallsBack_iff {retryDelay : Nat} {storage : SharedStorage} {moves : List Move} {e : Engine}
    {before after : List Entry} {id : OperationId} {report : Report} {g : GroupReplay}
    (h : ((new retryDelay storage).run moves).history = before ++ .turn e (.report id report) :: after)
    (hb : report.batch? = some g) (hp : g.shouldPoll = false) (hg : g.remaining ≠ []) :
    ∃ op, (e.receive (.report id report)).queue.operations.getLast? = some op ∧
      op.content = .collectGroups g.remaining retryDelay ∧
      (∀ e' i, .turn e' i ∈ after → ∀ op' ∈ e'.queue.operations, op'.id = op.id →
        ∃ more, op'.content = .collectGroups (g.remaining ++ more) retryDelay) ∧
      (FallsBack op.id after ↔ retryDelay ≠ 0 ∨ ∀ e', .turn e' (.report op.id .timerFired) ∉ after) := by
  have hret := returned_of_batch? hb hp
  have hn : report.returned ≠ [] := hret ▸ hg
  have hm : .turn e (.report id report) ∈ ((new retryDelay storage).run moves).history :=
    h ▸ List.mem_append_right _ List.mem_cons_self
  have hafter {x : Entry} (hx : x ∈ after) : x ∈ ((new retryDelay storage).run moves).history :=
    h ▸ List.mem_append_right _ (List.mem_cons_of_mem _ hx)
  have hdelay := (configured_of_run retryDelay storage moves).turns e _ hm
  obtain ⟨-, hall⟩ := holdsGaps_of_run retryDelay storage moves before e id report after h hn
  rw [hret, hdelay] at hall
  obtain ⟨hs, he, hd⟩ := due_of_turn hm
  have hlast : (e.receive (.report id report)).queue.operations.getLast? = some (e.awaits (.report id report)) := by
    cases hd with
    | report op rest report hq hk => exact Engine.last_receive hs hq hk (Report.restarts_of_returned hn _) hn
  have hcontent : (e.awaits (.report id report)).content = .collectGroups g.remaining retryDelay := by
    rw [Engine.awaits, hdelay, Input.returned, hret]
  refine ⟨_, hlast, hcontent, fun e' i hx => (hall e' i hx).holds, fun hf => ?_, fun hz e' i hx hl => ?_⟩
  · refine or_iff_not_imp_left.mpr fun hz e' hx => ?_
    obtain rfl := not_not.mp hz
    obtain ⟨hs', he', hd'⟩ := due_of_turn (hafter hx)
    obtain ⟨more, hmore⟩ := (hall e' _ hx).handed hs' he' hd'
    have hnone := (hf e' _ hx (.inr rfl)).handed
    rw [hmore, List.append_eq_nil_iff] at hnone
    exact hg hnone.1
  · obtain ⟨hs', he', hd'⟩ := due_of_turn (hafter hx)
    refine (hall e' i hx).givesUp hs' he' hd' hg hl ?_
    rintro rfl
    exact hz.resolve_right fun hno => hno e' hx

def waitingLate : List Move :=
  pushing [lateGroup] ++ [.proceed 0 calm, .deliver 0]

theorem fallsBack_of_waitingLate : ∃ before e id report g op e',
    ((new 2 sampleStorage).run waitingLate).history =
        before ++ .turn e (.report id report) :: [.turn e' (.report op.id .timerFired)] ∧
      report.batch? = some g ∧ g.shouldPoll = false ∧ g.remaining = [lateGroup] ∧
      (e.receive (.report id report)).queue.operations.getLast? = some op ∧
      FallsBack op.id [.turn e' (.report op.id .timerFired)] := by
  obtain ⟨a, b, c, e, id, report, g, e', x, h, hb, hp, hg, hx⟩ : ∃ a b c e id report g e' x,
      ((new 2 sampleStorage).run waitingLate).history =
          [a, b, c] ++ .turn e (.report id report) :: [.turn e' (.report x .timerFired)] ∧
        report.batch? = some g ∧ g.shouldPoll = false ∧ g.remaining = [lateGroup] ∧
        (e.receive (.report id report)).queue.operations.getLast?.map (·.id) = some x :=
    ⟨_, _, _, _, _, _, _, _, _, rfl, rfl, rfl, rfl, rfl⟩
  obtain ⟨op, hop, -, -, hf⟩ := fallsBack_iff h hb hp (by rw [hg]; exact List.cons_ne_nil _ _)
  rw [hop] at hx
  obtain rfl := Option.some.inj hx
  exact ⟨_, e, id, report, g, op, e', h, hb, hp, hg, hop, hf.mpr (.inl (by decide))⟩

theorem replayed_of_waitingLate : ∃ before e id report g op e',
    ((new 0 sampleStorage).run waitingLate).history =
        before ++ .turn e (.report id report) :: [.turn e' (.report op.id .timerFired)] ∧
      report.batch? = some g ∧ g.shouldPoll = false ∧ g.remaining = [lateGroup] ∧
      (e.receive (.report id report)).queue.operations.getLast? = some op ∧
      handed (e'.step (.report op.id .timerFired)).effects = [lateGroup] ∧
      ¬(e'.step (.report op.id .timerFired)).Polls ∧ ¬FallsBack op.id [.turn e' (.report op.id .timerFired)] := by
  obtain ⟨a, b, c, e, id, report, g, e', x, h, hb, hp, hg, hx, hh, hq⟩ : ∃ a b c e id report g e' x,
      ((new 0 sampleStorage).run waitingLate).history =
          [a, b, c] ++ .turn e (.report id report) :: [.turn e' (.report x .timerFired)] ∧
        report.batch? = some g ∧ g.shouldPoll = false ∧ g.remaining = [lateGroup] ∧
        (e.receive (.report id report)).queue.operations.getLast? =
          some ⟨x, .collectGroups [lateGroup] 0, false⟩ ∧
        handed (e'.step (.report x .timerFired)).effects = [lateGroup] ∧
        kindCount .pollDifference (e'.step (.report x .timerFired)).queue.operations = 0 :=
    ⟨_, _, _, _, _, _, _, _, _, rfl, rfl, rfl, rfl, rfl, rfl, rfl⟩
  have hn : ¬(e'.step (.report x .timerFired)).Polls := by
    rintro ⟨op, hm, hk⟩
    exact absurd (decide_eq_true hk) (List.countP_eq_zero.mp hq op hm)
  exact ⟨_, e, id, report, g, _, e', h, hb, hp, hg, hx, hh, hn, fun hf =>
    hn (hf e' _ (List.mem_singleton_self _) (.inr rfl)).polls⟩

end Replica

end AccountReplica
