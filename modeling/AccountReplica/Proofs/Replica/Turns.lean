import AccountReplica.Proofs.Engine.Requeues
import AccountReplica.Proofs.Replica.Sound

/-! What a turn does with the groups that wait: it starts with the oldest and keeps the others in their order, or it
drops them and a difference poll is queued. -/

namespace AccountReplica

namespace Input

def pushed : Input → List UpdateGroup
  | command c => c.pushed
  | report .. => []

def returned : Input → List UpdateGroup
  | command _ => []
  | report _ r => r.returned

end Input

namespace Engine

def restarts (e : Engine) : Input → Bool
  | .command c => c.resets
  | .report _ r => e.front.any r.restarts

def Polls (e : Engine) : Prop :=
  ∃ op ∈ e.queue.operations, op.content.kind = .pollDifference

variable {e e' : Engine} {op : Operation} {rest : List Operation} {i : Input}

lemma hands_refreshUpdating (e : Engine) : e.Hands e.refreshUpdating := by
  have hs := silent_refreshUpdating e
  have hr : e.refreshUpdating.retryDelay = e.retryDelay := by
    simp only [refreshUpdating]
    split <;> rfl
  have hi : e.queue.issued ≤ e.refreshUpdating.queue.issued := Nat.le_of_eq (by rw [hs.queue])
  refine .of_deeds ?_ hi hr (handed_of_deeds hs.deeds) (by rw [hs.queue])
  rw [hs.queue]
  exact .refl _ _

lemma handed_answers (c : Content) : c.answers.flatMap Deed.handed = [] := by
  refine List.flatMap_eq_nil_iff.mpr fun d hd => ?_
  cases c with
  | pollCompletion ids subscribers =>
    obtain ⟨s, -, rfl⟩ := List.mem_map.mp hd
    rfl
  | _ => cases hd

lemma hands_step (h : e.Settled) (he : e.effects = []) (hd : e.Due i) :
    (e.receive i).Hands (e.step i) ∧ e.queue.issued ≤ (e.receive i).queue.issued ∧
      handed (e.receive i).effects = [] := by
  have hstart : (e.receive i).Hands (e.receive i).startFirst → (e.receive i).Hands (e.step i) := fun hh =>
    hh.trans (hands_refreshUpdating _)
  cases hd with
  | command c =>
    obtain ⟨hq, ht⟩ | ⟨op, rest, hq, hr, ho, ht⟩ := h
    · obtain ⟨hw, hi, hd⟩ := waiting_command hq ht c
      exact ⟨hstart (hands_startFirst hw.ready.startable), hi, (handed_of_deeds hd).trans (by rw [he]; rfl)⟩
    · obtain ⟨⟨op', rest', hq', ha, -⟩, hi, -, hd⟩ := obeys_command hq hr ho c
      have hf : (e.command c).startFirst = e.command c := startFirst_running hq' (ha.running.trans hr)
      refine ⟨hstart ?_, hi, (handed_of_deeds hd).trans (by rw [he]; rfl)⟩
      rw [receive, hf]
      exact .refl _
  | report op rest r hq hk =>
    obtain ⟨hr, ho, ht⟩ := h.head hq
    have hh := handles_report hq hr ho ht hk
    refine ⟨hstart (hands_startFirst hh.ready.startable), hh.issued, ?_⟩
    have hn : deeds (e.popped rest).effects = [] := by rw [popped, drop, he, deeds_nil]
    rw [handed_eq, receive, hh.deeds, hn, List.nil_append, handed_answers]

lemma issued_step (h : e.Settled) (he : e.effects = []) (hd : e.Due i) :
    e.queue.issued ≤ (e.step i).queue.issued := by
  obtain ⟨hh, hi, -⟩ := hands_step h he hd
  exact Nat.le_trans hi hh.issued

lemma restarts_report (hq : e.queue.operations = op :: rest) (id : OperationId) (r : Report) :
    e.restarts (.report id r) = r.restarts op.content := by
  simp only [restarts, front_cons hq, Option.any_some]

structure Keeps (e : Engine) (i : Input) : Prop where
  old : Stems e.queue.operations (e.receive i).queue.operations e.queue.issued
  still : ∀ op ∈ e.queue.operations, op.content.Stays →
    (∃ op' ∈ (e.receive i).queue.operations, op.Grows op') ∨ ∃ r, i = .report op.id r ∧ r.kind = op.content.kind
  held : ∃ timeout, heldBy (e.receive i).queue.operations =
    heldBy e.queue.operations ++ (i.pushed.map (·, timeout) ++ i.returned.map (·, e.retryDelay))
  retryDelay : (e.receive i).retryDelay = e.retryDelay

lemma heldBy_awaiting (groups : List UpdateGroup) (delay issued : Nat) :
    heldBy (awaiting groups delay issued) = groups.map (·, delay) := by
  cases groups with
  | nil => rfl
  | cons g gs => simp [awaiting, Operation.held]

lemma keeps_of_due (h : e.Settled) (hd : e.Due i) (hr : e.restarts i = false) : e.Keeps i := by
  cases hd with
  | command c =>
    obtain ⟨hy, timeout, hh⟩ := keeps_command e hr
    refine ⟨hy.old, fun op hm hs => .inl (hy.still op hm hs), ⟨timeout, ?_⟩, retryDelay_command e c⟩
    rw [receive, hh]
    simp [Input.pushed, Input.returned]
  | report op rest r hq hk =>
    rw [restarts_report hq] at hr
    obtain ⟨⟨front, hf, hl, hops⟩, -, ha, hd⟩ := requeues_report h hq hk
    rw [hr] at hl hops
    have hb : ∀ x ∈ awaiting r.returned e.retryDelay (e.report op.id r).queue.issued, e.queue.issued < x.id.val := by
      intro x hx
      simp only [awaiting] at hx
      split at hx
      · cases hx
      · next hn =>
        rw [List.mem_singleton.mp hx]
        exact ha (by simpa using hn)
    have hq' : (e.receive (.report op.id r)).queue.operations =
        front ++ rest ++ awaiting r.returned e.retryDelay (e.report op.id r).queue.issued := by
      rw [receive, hops, List.append_assoc]
      rfl
    have hy : Yields ([] ++ rest) _ e.queue.issued :=
      .around [] front (List.forall_mem_nil _) (List.forall_mem_append.mpr ⟨hf, hb⟩)
    rw [List.nil_append, ← hq'] at hy
    refine ⟨?_, fun op' hm hs => ?_, ⟨0, ?_⟩, hd⟩
    · rw [hq]
      exact hy.old.mono (List.subset_cons_self _ _)
    · rw [hq] at hm
      rcases List.mem_cons.mp hm with rfl | hm
      · exact .inr ⟨r, rfl, hk⟩
      · exact .inl (hy.still op' hm hs)
    · rw [hq', hq, heldBy_append, heldBy_append, heldBy_cons, hl, heldBy_awaiting]
      rfl

structure Restarted (e : Engine) (i : Input) : Prop where
  old : Stems e.queue.operations (e.receive i).queue.operations e.queue.issued
  poll : ∃ op ∈ (e.receive i).queue.operations, op.content.kind = .pollDifference ∧ e.queue.issued < op.id.val
  held : heldBy (e.receive i).queue.operations = [] ∨
    ∃ c op rest rest', i = .command c ∧ e.queue.operations = op :: rest ∧ (e.receive i).queue.operations = op :: rest' ∧
      op.running = true ∧ heldBy rest' = []
  retryDelay : (e.receive i).retryDelay = e.retryDelay

lemma stems_restarted {lead : List Operation} {issued : Nat} (ho : Orderly lead rest issued) :
    Stems rest (restarted rest issued) issued := by
  intro op' hm
  refine ((Survives.restarted ho).old op' hm).imp_left ?_
  rintro ⟨op, hm, ha, hk⟩
  exact ⟨op, hm, .of_kind ha.id ha.kind (by rw [hk rfl]; rintro ⟨⟩)⟩

lemma poll_restarted (rest : List Operation) (issued : Nat) :
    ∃ op ∈ restarted rest issued, op.content.kind = .pollDifference ∧ issued < op.id.val :=
  ⟨_, List.mem_cons_self, rfl, Nat.lt_succ_self _⟩

lemma restarted_reset (h : e.Settled) : e.Restarted (.command .reset) := by
  obtain ⟨hq, ht⟩ | ⟨op, rest, hq, hrun, ho, ht⟩ := h
  · have hq' := (waiting_of_empty hq ht).pollAgain_operations
    rw [hq] at hq'
    refine ⟨fun op' hm => ?_, ?_, .inl ?_, rfl⟩
    · rw [receive, command, hq'] at hm
      exact (stems_restarted (.nil _)).mono (List.nil_subset _) op' hm
    · rw [receive, command, hq']
      exact poll_restarted _ _
    · rw [receive, command, hq', heldBy_restarted]
  · have hq' := congrArg OperationQueue.operations
      (pollAgain_queue (e := e) hq (List.forall_mem_singleton.mpr hrun) ho)
    refine ⟨fun op' hm => ?_, ?_, .inr ⟨_, op, rest, _, rfl, hq, hq', hrun, heldBy_restarted _ _⟩, rfl⟩
    · rw [receive, command, hq'] at hm
      rw [hq]
      rcases List.mem_cons.mp hm with rfl | hm
      · exact .inl ⟨op', List.mem_cons_self, .refl op'⟩
      · exact (stems_restarted ho).mono (List.subset_cons_self _ _) op' hm
    · rw [receive, command, hq']
      obtain ⟨x, hx, hp⟩ := poll_restarted rest e.queue.issued
      exact ⟨x, List.mem_cons_of_mem _ hx, hp⟩

lemma restarted_report {r : Report} (h : e.Settled) (hq : e.queue.operations = op :: rest)
    (hk : r.kind = op.content.kind) (hr : r.restarts op.content = true) : e.Restarted (.report op.id r) := by
  obtain ⟨-, ho, -⟩ := h.head hq
  obtain ⟨⟨front, hf, hl, hops⟩, -, -, hd⟩ := requeues_report h hq hk
  rw [hr] at hl hops
  have hq' : (e.receive (.report op.id r)).queue.operations = front ++ restarted rest e.queue.issued := hops
  refine ⟨fun op' hm => ?_, ?_, .inl ?_, hd⟩
  · rw [hq'] at hm
    rw [hq]
    rcases List.mem_append.mp hm with hm | hm
    · exact .inr (hf op' hm)
    · exact (stems_restarted ho).mono (List.subset_cons_self _ _) op' hm
  · rw [hq']
    obtain ⟨x, hx, hp⟩ := poll_restarted rest e.queue.issued
    exact ⟨x, List.mem_append_right _ hx, hp⟩
  · rw [hq', heldBy_append, hl, heldBy_restarted]
    rfl

lemma restarted_of_due (h : e.Settled) (hd : e.Due i) (hr : e.restarts i = true) : e.Restarted i := by
  cases hd with
  | command c =>
    obtain rfl : c = .reset := by cases c <;> first | rfl | cases hr
    exact restarted_reset h
  | report op rest r hq hk =>
    rw [restarts_report hq] at hr
    exact restarted_report h hq hk hr

lemma Restarted.dropped (h : e.Restarted i) (hh : (e.receive i).Hands (e.step i))
    (hn : handed (e.receive i).effects = []) :
    handed (e.step i).effects = [] ∧ heldBy (e.step i).queue.operations <+: heldBy e.queue.operations ∧
      ∀ op ∈ (e.step i).queue.operations, op.held ≠ [] → op ∈ e.queue.operations := by
  rcases h.held with h0 | ⟨c, op, rest, rest', hc, hq, hq', hrun, h0⟩
  · obtain ⟨hnone, hheld⟩ := hh.nothing hn h0
    refine ⟨hnone, hheld ▸ List.nil_prefix, fun op hm hne => ?_⟩
    exact absurd (heldBy_eq_nil.mp hheld op hm) hne
  · have hs : e.step i = (e.receive i).refreshUpdating := congrArg refreshUpdating (startFirst_running hq' hrun)
    have hops : (e.step i).queue.operations = op :: rest' := by
      rw [hs, (silent_refreshUpdating _).queue, hq']
    refine ⟨?_, ?_, fun x hm hne => ?_⟩
    · rw [hs, handed_of_deeds (silent_refreshUpdating _).deeds, hn]
    · rw [hops, hq, heldBy_cons, heldBy_cons, h0, List.append_nil]
      exact List.prefix_append _ _
    · rw [hops] at hm
      rw [hq]
      rcases List.mem_cons.mp hm with rfl | hm
      · exact List.mem_cons_self
      · exact absurd (heldBy_eq_nil.mp h0 x hm) hne

/-- What a turn does with the groups that wait. -/
structure GroupTurn (e : Engine) (i : Input) : Prop where
  retryDelay : (e.step i).retryDelay = e.retryDelay
  old : Stems e.queue.operations (e.step i).queue.operations e.queue.issued
  still : e.restarts i = false → ∀ op ∈ e.queue.operations, op.content.Stays →
    (∃ op' ∈ (e.step i).queue.operations, op.Grows op') ∨ ∃ r, i = .report op.id r ∧ r.kind = op.content.kind
  held : e.restarts i = false → ∃ timeout,
    (handed (e.step i).effects).map (·, 0) ++ heldBy (e.step i).queue.operations =
      heldBy e.queue.operations ++ (i.pushed.map (·, timeout) ++ i.returned.map (·, e.retryDelay))
  poll : e.restarts i = true →
    ∃ op ∈ (e.step i).queue.operations, op.content.kind = .pollDifference ∧ e.queue.issued < op.id.val
  dropped : e.restarts i = true → handed (e.step i).effects = [] ∧
    heldBy (e.step i).queue.operations <+: heldBy e.queue.operations ∧
      ∀ op ∈ (e.step i).queue.operations, op.held ≠ [] → op ∈ e.queue.operations
  cleared : e.restarts i = true → ∀ id r, i = .report id r → heldBy (e.step i).queue.operations = []

theorem groupTurn_of_due (h : e.Settled) (he : e.effects = []) (hd : e.Due i) : e.GroupTurn i := by
  obtain ⟨hh, hi, hn⟩ := hands_step h he hd
  cases hr : e.restarts i with
  | false =>
    obtain ⟨hold, hstill, ⟨timeout, hk⟩, hdelay⟩ := keeps_of_due h hd hr
    have hnot : e.restarts i ≠ true := by simp [hr]
    refine ⟨hh.retryDelay.trans hdelay, hold.trans hh.yields.old hi, fun _ op hm hs => ?_, fun _ => ⟨timeout, ?_⟩,
      fun ht => absurd ht hnot, fun ht => absurd ht hnot, fun ht => absurd ht hnot⟩
    · rcases hstill op hm hs with ⟨op', hm', hg⟩ | hrep
      · have hs' : op'.content.Stays := by rwa [Content.Stays, hg.kind]
        obtain ⟨op'', hm'', hg'⟩ := hh.yields.still op' hm' hs'
        exact .inl ⟨op'', hm'', hg.trans hg'⟩
      · exact .inr hrep
    · obtain ⟨went, hw, hheld⟩ := hh.held
      rw [hn, List.nil_append] at hw
      rw [hw, hheld, hk]
  | true =>
    have hrest := restarted_of_due h hd hr
    have hnot : e.restarts i ≠ false := by simp [hr]
    refine ⟨hh.retryDelay.trans hrest.retryDelay, hrest.old.trans hh.yields.old hi, fun ht => absurd ht hnot,
      fun ht => absurd ht hnot, fun _ => ?_, fun _ => hrest.dropped hh hn, fun _ id r hi => ?_⟩
    · obtain ⟨x, hx, hk, hlt⟩ := hrest.poll
      obtain ⟨x', hx', hg⟩ := hh.yields.still x hx (.inl hk)
      exact ⟨x', hx', hg.kind.trans hk, by rw [hg.id]; exact hlt⟩
    · rcases hrest.held with h0 | ⟨c, op, rest, rest', hc, -⟩
      · exact (hh.nothing hn h0).2
      · cases hc.symm.trans hi

end Engine

namespace Replica

structure Configured (retryDelay : Nat) (r : Replica) : Prop where
  now : r.engine.retryDelay = retryDelay
  turns : ∀ e i, .turn e i ∈ r.history → e.retryDelay = retryDelay

lemma configured_advance {retryDelay : Nat} {r r' : Replica} (hs : r.Sound) (ha : r.Advance r')
    (h : r.Configured retryDelay) : r'.Configured retryDelay := by
  obtain ⟨i, underway, hd, rfl⟩ | ⟨he, hh⟩ := ha.turned_or
  · refine ⟨(Engine.groupTurn_of_due hs.settled hs.effects hd).retryDelay.trans h.now, fun e j hm => ?_⟩
    rcases List.mem_append.mp hm with hm | hm
    · exact h.turns e j hm
    · cases List.mem_singleton.mp hm
      exact h.now
  · refine ⟨he ▸ h.now, fun e j hm => h.turns e j ?_⟩
    rcases hh with hh | ⟨id, what, hh⟩ <;> rw [hh] at hm
    · exact hm
    · simpa using hm

lemma configured_of_run (retryDelay : Nat) (storage : SharedStorage) (moves : List Move) :
    ((new retryDelay storage).run moves).Configured retryDelay :=
  run_induct (motive := Configured retryDelay) ⟨rfl, fun _ _ hm => absurd hm List.not_mem_nil⟩
    (fun _ _ hs ha h => configured_advance hs ha h) moves

end Replica

end AccountReplica
