import AccountReplica.Proofs.Engine.Command

/-! Where pushed groups are while they wait in the queue, and what a turn does with them: it hands them to a replay,
keeps them where they are, or drops them and asks for a difference. -/

namespace AccountReplica

def Operation.held (op : Operation) : List (UpdateGroup × Nat) :=
  match op.content with
  | .collectGroups groups timeout => groups.map (·, timeout)
  | .processGroups groups => if op.running then [] else groups.map (·, 0)
  | _ => []

def heldBy (ops : List Operation) : List (UpdateGroup × Nat) :=
  ops.flatMap Operation.held

def Effect.handed : Effect → List UpdateGroup
  | spawn _ (.replayGroups groups) => groups
  | _ => []

def handed (xs : List Effect) : List UpdateGroup :=
  xs.flatMap Effect.handed

def Deed.handed : Deed → List UpdateGroup
  | launch _ (some (.replayGroups groups)) => groups
  | _ => []

lemma handed_eq (xs : List Effect) : handed xs = (deeds xs).flatMap Deed.handed := by
  induction xs with
  | nil => rfl
  | cons x xs ih =>
    have hx : x.handed = x.deed?.toList.flatMap Deed.handed := by
      cases x with
      | spawn id task => cases task <;> simp [Effect.handed, Effect.deed?, Deed.handed]
      | _ => simp [Effect.handed, Effect.deed?, Deed.handed]
    have hc : handed (x :: xs) = x.handed ++ handed xs := rfl
    rw [hc, deeds_cons, List.flatMap_append, ih, hx]

lemma handed_of_deeds {xs ys : List Effect} (h : deeds xs = deeds ys) : handed xs = handed ys := by
  rw [handed_eq, handed_eq, h]

@[simp] lemma handed_append (xs ys : List Effect) : handed (xs ++ ys) = handed xs ++ handed ys :=
  List.flatMap_append

@[simp] lemma heldBy_cons (op : Operation) (ops : List Operation) : heldBy (op :: ops) = op.held ++ heldBy ops :=
  List.flatMap_cons

@[simp] lemma heldBy_append (ops ops' : List Operation) : heldBy (ops ++ ops') = heldBy ops ++ heldBy ops' :=
  List.flatMap_append

@[simp] lemma heldBy_nil : heldBy [] = [] := rfl

lemma heldBy_eq_nil {ops : List Operation} : heldBy ops = [] ↔ ∀ op ∈ ops, op.held = [] :=
  List.flatMap_eq_nil_iff

def Content.toReplay : Content → List UpdateGroup
  | processGroups groups => groups
  | _ => []

structure Operation.Grows (op op' : Operation) : Prop where
  id : op'.id = op.id
  kind : op'.content.kind = op.content.kind
  collects : ∀ groups timeout, op.content = .collectGroups groups timeout →
    ∃ more, op'.content = .collectGroups (groups ++ more) timeout

namespace Operation.Grows

variable {op op' op'' : Operation}

lemma refl (op : Operation) : op.Grows op :=
  ⟨rfl, rfl, fun groups _ h => ⟨[], by rw [List.append_nil, h]⟩⟩

lemma trans (h : op.Grows op') (h' : op'.Grows op'') : op.Grows op'' where
  id := h'.id.trans h.id
  kind := h'.kind.trans h.kind
  collects groups timeout hc := by
    obtain ⟨more, hc'⟩ := h.collects groups timeout hc
    obtain ⟨more', hc''⟩ := h'.collects _ timeout hc'
    exact ⟨more ++ more', by rw [hc'', List.append_assoc]⟩

lemma of_kind (hi : op'.id = op.id) (hk : op'.content.kind = op.content.kind)
    (hn : op.content.kind ≠ .collectGroups) : op.Grows op' where
  id := hi
  kind := hk
  collects groups timeout hc := by
    rw [hc] at hn
    exact absurd rfl hn

end Operation.Grows

def Content.Stays (c : Content) : Prop :=
  c.kind = .pollDifference ∨ c.kind = .collectGroups

def Stems (ops ops' : List Operation) (issued : Nat) : Prop :=
  ∀ op' ∈ ops', (∃ op ∈ ops, op.Grows op') ∨ issued < op'.id.val

lemma Stems.mono {ops more ops' : List Operation} {issued : Nat} (h : Stems ops ops' issued) (hs : ops ⊆ more) :
    Stems more ops' issued :=
  fun op' hm => (h op' hm).imp_left fun ⟨op, ho, hg⟩ => ⟨op, hs ho, hg⟩

lemma Stems.trans {ops ops' ops'' : List Operation} {issued issued' : Nat} (h : Stems ops ops' issued)
    (h' : Stems ops' ops'' issued') (hi : issued ≤ issued') : Stems ops ops'' issued := by
  intro op'' hm
  rcases h' op'' hm with ⟨op', ho', hg'⟩ | hn
  · rcases h op' ho' with ⟨op, ho, hg⟩ | hn
    · exact .inl ⟨op, ho, hg.trans hg'⟩
    · exact .inr (hg'.id ▸ hn)
  · exact .inr (Nat.lt_of_le_of_lt hi hn)

structure Yields (ops ops' : List Operation) (issued : Nat) : Prop where
  old : Stems ops ops' issued
  still : ∀ op ∈ ops, op.content.Stays → ∃ op' ∈ ops', op.Grows op'

namespace Yields

variable {ops ops' ops'' : List Operation} {issued issued' : Nat}

lemma of_forall₂ (h : List.Forall₂ Operation.Grows ops ops') (issued : Nat) : Yields ops ops' issued where
  old := by
    induction h with
    | nil => exact List.forall_mem_nil _
    | cons hg _ ih =>
      exact List.forall_mem_cons.mpr ⟨.inl ⟨_, List.mem_cons_self, hg⟩, Stems.mono ih (List.subset_cons_self _ _)⟩
  still := by
    induction h with
    | nil => exact List.forall_mem_nil _
    | cons hg _ ih =>
      refine List.forall_mem_cons.mpr ⟨fun _ => ⟨_, List.mem_cons_self, hg⟩, fun op hm hs => ?_⟩
      obtain ⟨op', ho, hg⟩ := ih op hm hs
      exact ⟨op', List.mem_cons_of_mem _ ho, hg⟩

lemma refl (ops : List Operation) (issued : Nat) : Yields ops ops issued :=
  of_forall₂ (List.forall₂_same.mpr fun op _ => .refl op) issued

lemma trans (h : Yields ops ops' issued) (h' : Yields ops' ops'' issued') (hi : issued ≤ issued') :
    Yields ops ops'' issued where
  old := h.old.trans h'.old hi
  still op ho hs := by
    obtain ⟨op', ho', hg⟩ := h.still op ho hs
    have hs' : op'.content.Stays := by rwa [Content.Stays, hg.kind]
    obtain ⟨op'', ho'', hg'⟩ := h'.still op' ho' hs'
    exact ⟨op'', ho'', hg.trans hg'⟩

lemma around (lead front : List Operation) {back : List Operation} (hl : ∀ op ∈ lead, ¬op.content.Stays)
    (hn : ∀ op ∈ front ++ back, issued < op.id.val) : Yields (lead ++ ops) (front ++ ops ++ back) issued where
  old op' hm := by
    rw [List.mem_append, List.mem_append, or_right_comm, ← List.mem_append] at hm
    rcases hm with hm | hm
    · exact .inr (hn op' hm)
    · exact .inl ⟨op', List.mem_append_right _ hm, .refl op'⟩
  still op hm hs := by
    rcases List.mem_append.mp hm with hm | hm
    · exact absurd hs (hl op hm)
    · exact ⟨op, by simp [hm], .refl op⟩

lemma concat (op : Operation) (hi : issued < op.id.val) : Yields ops (ops ++ [op]) issued :=
  around [] [] (List.forall_mem_nil _) (List.forall_mem_singleton.mpr hi)

end Yields

namespace OperationQueue

variable {f : List MessageId → List SubscriberId → List MessageId × List SubscriberId} {ops ops' : List Operation}

lemma grows_updateCompletion? (h : updateCompletion? f ops = some ops') :
    List.Forall₂ Operation.Grows ops ops' ∧ heldBy ops' = heldBy ops := by
  induction ops generalizing ops' with
  | nil => cases h
  | cons op ops ih =>
    obtain ⟨id, c, running⟩ := op
    cases c with
    | pollCompletion ids subscribers =>
      cases h
      have hg : Operation.Grows ⟨id, .pollCompletion ids subscribers, running⟩
          ⟨id, .pollCompletion (f ids subscribers).1 (f ids subscribers).2, running⟩ := .of_kind rfl rfl (by rintro ⟨⟩)
      exact ⟨.cons hg (List.forall₂_same.mpr fun op _ => .refl op), rfl⟩
    | _ =>
      obtain ⟨ops'', hu, rfl⟩ := Option.map_eq_some_iff.mp h
      obtain ⟨hg, hh⟩ := ih hu
      exact ⟨.cons (.refl _) hg, by rw [heldBy_cons, heldBy_cons, hh]⟩

lemma grows_withCompletion (q : OperationQueue) :
    List.Forall₂ Operation.Grows q.operations ((q.withCompletion? f).getD q).operations ∧
      heldBy ((q.withCompletion? f).getD q).operations = heldBy q.operations := by
  simp only [withCompletion?]
  cases hu : updateCompletion? f q.operations with
  | none => exact ⟨List.forall₂_same.mpr fun op _ => .refl op, rfl⟩
  | some ops => exact grows_updateCompletion? hu

lemma issued_withCompletion (q : OperationQueue) : ((q.withCompletion? f).getD q).issued = q.issued := by
  simp only [withCompletion?]
  cases updateCompletion? f q.operations <;> rfl

lemma grows_extendLast? {gs : List UpdateGroup} (h : extendLast? gs ops = some ops') :
    List.Forall₂ Operation.Grows ops ops' ∧ ∃ timeout, heldBy ops' = heldBy ops ++ gs.map (·, timeout) := by
  induction ops generalizing ops' with
  | nil => cases h
  | cons op ops ih =>
    cases ops with
    | nil =>
      obtain ⟨id, c, running⟩ := op
      cases c with
      | collectGroups pending timeout =>
        simp only [extendLast?] at h
        split at h
        · cases h
          refine ⟨.cons ⟨rfl, rfl, ?_⟩ .nil, timeout, by simp [Operation.held]⟩
          rintro _ _ ⟨⟩
          exact ⟨gs, rfl⟩
        · cases h
      | _ => cases h
    | cons op' ops =>
      obtain ⟨ops'', hu, rfl⟩ := Option.map_eq_some_iff.mp h
      obtain ⟨hg, timeout, hh⟩ := ih hu
      exact ⟨.cons (.refl op) hg, timeout, by rw [heldBy_cons, heldBy_cons op, hh, List.append_assoc]⟩

end OperationQueue

namespace Engine

/-- Starting operations hands some of the groups to a replay, and all others wait as before. -/
structure Hands (e e' : Engine) : Prop where
  yields : Yields e.queue.operations e'.queue.operations e.queue.issued
  issued : e.queue.issued ≤ e'.queue.issued
  retryDelay : e'.retryDelay = e.retryDelay
  held : ∃ groups, handed e'.effects = handed e.effects ++ groups ∧
    groups.map (·, 0) ++ heldBy e'.queue.operations = heldBy e.queue.operations

variable {e e' e'' : Engine} {op : Operation} {rest : List Operation}

namespace Hands

lemma refl (e : Engine) : e.Hands e :=
  ⟨.refl _ _, Nat.le_refl _, rfl, [], (List.append_nil _).symm, rfl⟩

lemma trans (h : e.Hands e') (h' : e'.Hands e'') : e.Hands e'' where
  yields := h.yields.trans h'.yields h.issued
  issued := Nat.le_trans h.issued h'.issued
  retryDelay := h'.retryDelay.trans h.retryDelay
  held := by
    obtain ⟨gs, hg, hh⟩ := h.held
    obtain ⟨gs', hg', hh'⟩ := h'.held
    exact ⟨gs ++ gs', by rw [hg', hg, List.append_assoc], by rw [List.map_append, List.append_assoc, hh', hh]⟩

lemma nothing (h : e.Hands e') (hn : handed e.effects = []) (hh : heldBy e.queue.operations = []) :
    handed e'.effects = [] ∧ heldBy e'.queue.operations = [] := by
  obtain ⟨groups, hg, hh'⟩ := h.held
  rw [hh, List.append_eq_nil_iff, List.map_eq_nil_iff] at hh'
  rw [hn, hh'.1] at hg
  exact ⟨hg, hh'.2⟩

lemma of_deeds (hy : Yields e.queue.operations e'.queue.operations e.queue.issued)
    (hi : e.queue.issued ≤ e'.queue.issued) (hr : e'.retryDelay = e.retryDelay)
    (hd : handed e'.effects = handed e.effects) (hh : heldBy e'.queue.operations = heldBy e.queue.operations) :
    e.Hands e' :=
  ⟨hy, hi, hr, [], by rw [hd, List.append_nil], hh⟩

end Hands

lemma Tells.retryDelay (h : e.Tells e') : e'.retryDelay = e.retryDelay := by
  obtain ⟨xs, rfl, -⟩ := h
  rfl

lemma retryDelay_reportPollFailure (e : Engine) (error : SyncError) :
    (e.reportPollFailure error).retryDelay = e.retryDelay := by
  simp only [reportPollFailure]
  split <;> rfl

lemma grows_started (op : Operation) : op.Grows { op with content := op.content.started, running := true } where
  id := rfl
  kind := Content.kind_started _
  collects groups timeout hc := ⟨[], by simp [hc, Content.started]⟩

lemma hands_run (hq : e.queue.operations = op :: rest) (hi : op.running = false)
    (hq' : e'.queue = (e.run op rest).queue) (hr : e'.retryDelay = e.retryDelay)
    (hd : handed e'.effects = handed e.effects ++ op.content.toReplay) : e.Hands e' where
  yields := by
    rw [hq', hq]
    exact .of_forall₂ (.cons (grows_started op) (List.forall₂_same.mpr fun op _ => .refl op)) _
  issued := by simp [hq', run]
  retryDelay := hr
  held := by
    have hh : op.content.toReplay.map (·, 0) ++
        Operation.held { op with content := op.content.started, running := true } = op.held := by
      obtain ⟨id, c, running⟩ := op
      obtain rfl : running = false := hi
      cases c <;> simp [Operation.held, Content.toReplay, Content.started]
    refine ⟨op.content.toReplay, hd, ?_⟩
    rw [hq', hq, heldBy_cons, ← hh]
    simp [run]

lemma hands_drop (back : List Operation) (hq : e.queue.operations = op :: rest) (hs : ¬op.content.Stays)
    (hh : op.held = []) (hq' : e'.queue.operations = rest ++ back) (hi : e.queue.issued ≤ e'.queue.issued)
    (hb : ∀ op ∈ back, e.queue.issued < op.id.val ∧ op.held = []) (hr : e'.retryDelay = e.retryDelay)
    (hd : handed e'.effects = handed e.effects) : e.Hands e' where
  yields := by
    rw [hq, hq']
    exact .around [op] [] (List.forall_mem_singleton.mpr hs) fun op hm => (hb op hm).1
  issued := hi
  retryDelay := hr
  held := by
    refine ⟨[], by rw [hd, List.append_nil], ?_⟩
    have hn : heldBy back = [] := heldBy_eq_nil.mpr fun op hm => (hb op hm).2
    rw [hq, hq', heldBy_cons, heldBy_append, hh, hn, List.append_nil]
    rfl

lemma handed_emit (e : Engine) (x : Effect) : handed (e.emit x).effects = handed e.effects ++ x.handed := by
  rw [emit, handed_append]
  exact congrArg _ (List.append_nil x.handed)

lemma cancelTimer_groups (e : Engine) : e.cancelTimer.queue = e.queue ∧ e.cancelTimer.retryDelay = e.retryDelay ∧
    handed e.cancelTimer.effects = handed e.effects := by
  simp only [cancelTimer]
  split
  · exact ⟨rfl, rfl, (handed_emit _ _).trans (List.append_nil _)⟩
  · exact ⟨rfl, rfl, rfl⟩

lemma announce_groups (e : Engine) (id : OperationId) (ev : EventSet) :
    ((e.emit (.dispatch id ev)).announce ev).queue = e.queue ∧
      ((e.emit (.dispatch id ev)).announce ev).retryDelay = e.retryDelay ∧
      handed ((e.emit (.dispatch id ev)).announce ev).effects = handed e.effects := by
  have hn := tells_announce (e.emit (.dispatch id ev)) ev
  refine ⟨hn.queue, hn.retryDelay, (handed_of_deeds hn.deeds).trans ?_⟩
  exact (handed_emit _ _).trans (List.append_nil _)

lemma hands_reportIncoming (e : Engine) (id : OperationId) (ids : List MessageId) :
    e.Hands (e.reportIncoming id ids) := by
  obtain ⟨hg, hh⟩ := OperationQueue.grows_withCompletion e.queue
    (f := fun incoming subscribers => (incoming ++ ids, subscribers))
  refine .of_deeds (.of_forall₂ hg _) ?_ rfl ?_ hh
  · exact Nat.le_of_eq (OperationQueue.issued_withCompletion _).symm
  · exact (handed_emit _ _).trans (List.append_nil _)

lemma hands_of_start (hq : e.queue.operations = op :: rest) (hi : op.running = false)
    {goesOn : Bool} (hs : e.start op rest = (e', goesOn)) : e.Hands e' := by
  rw [start] at hs
  split at hs
  · next hc =>
    cases hs
    exact hands_run hq hi rfl rfl (by rw [handed_emit, hc]; rfl)
  · next hc =>
    cases hs
    obtain ⟨hq', hr, hd⟩ := cancelTimer_groups (e.run op rest)
    refine hands_run hq hi hq' hr ?_
    rw [hc]
    exact (handed_emit _ _).trans (congrArg (· ++ []) hd)
  · next hc =>
    cases hs
    exact hands_run hq hi rfl rfl (by rw [handed_emit, hc]; rfl)
  · next hc =>
    cases hs
    exact hands_run hq hi rfl rfl (by rw [handed_emit, hc]; rfl)
  · next hc =>
    cases hs
    exact hands_drop [] hq (by simp [Content.Stays, hc, Content.kind]) (by simp [Operation.held, hc])
      (List.append_nil _).symm (Nat.le_refl _) (List.forall_mem_nil _) rfl rfl
  · next hc =>
    cases hs
    exact hands_run hq hi rfl rfl (by rw [handed_emit, hc]; rfl)
  · next ids subscribers hc =>
    split at hs
    · cases hs
      exact hands_run hq hi rfl rfl (by rw [handed_emit, handed_emit, hc]; simp [Effect.handed, Content.toReplay, run])
    · cases hs
      refine hands_drop [⟨(e.drop rest).queue.nextId, .pollCompletion ids subscribers, false⟩] hq
        (by simp [Content.Stays, hc, Content.kind]) (by simp [Operation.held, hc]) rfl (Nat.le_succ _) ?_ rfl rfl
      exact List.forall_mem_singleton.mpr ⟨Nat.lt_succ_self _, rfl⟩
  · next ev hc =>
    obtain ⟨hq', hr, hd⟩ := announce_groups (e.run op rest) op.id ev
    dsimp only at hs
    split at hs
    · cases hs
      exact hands_drop [] hq (by simp [Content.Stays, hc, Content.kind]) (by simp [Operation.held, hc])
        (List.append_nil _).symm (Nat.le_of_eq (congrArg OperationQueue.issued hq').symm) (List.forall_mem_nil _) hr hd
    · cases hs
      have hrun := hands_run hq hi hq' hr (by rw [hd, hc]; exact (List.append_nil _).symm)
      exact hrun.trans (hands_reportIncoming _ _ _)

lemma hands_startFirst (h : Startable e.queue.operations) : e.Hands e.startFirst := by
  have key : Startable e.queue.operations → e.Hands e.startFirst := by
    refine startFirst_induct (motive := fun e e' => Startable e.queue.operations → e.Hands e') ?_ ?_ ?_ h
    · exact fun e _ _ => .refl e
    · exact fun e op rest e' hq hs h => hands_of_start hq (h.idle op (hq ▸ List.mem_cons_self)) hs
    · intro e op rest e' e'' hq hs ih h
      have h' := (start_goes_on (hq ▸ h) hs).1
      exact (hands_of_start hq (h.idle op (hq ▸ List.mem_cons_self)) hs).trans (ih h')
  exact key h

end Engine

end AccountReplica
