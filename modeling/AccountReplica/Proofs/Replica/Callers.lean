import AccountReplica.Proofs.Engine.WorkTurn
import AccountReplica.Proofs.Replica.Moves

/-! What callers get: their work is started in the order in which they asked for it, and who waits for the replay of a
precomputed state is told once how it went. -/

namespace AccountReplica

def Effect.reply? : Effect → Option (WaiterId × Bool)
  | answerPrecomputed waiter success => some (waiter, success)
  | _ => none

def Mark.reply? : Mark → Option (WaiterId × Bool)
  | replayed waiter success => some (waiter, success)
  | _ => none

lemma filterMap_reply (xs : List Effect) : (marks xs).filterMap Mark.reply? = xs.filterMap Effect.reply? :=
  filterMap_marks (fun x => by
    cases x with
    | publish p => cases p <;> rfl
    | _ => rfl) xs

namespace Entry

def requests : Entry → List (OperationId × Task)
  | turn e (.command (.addCustom work)) => [(e.queue.nextId, .custom work)]
  | turn e (.command (.replayPrecomputed state _)) => [(e.queue.nextId, .replayPrecomputed state)]
  | _ => []

def waiters : Entry → List (OperationId × WaiterId)
  | turn e (.command (.replayPrecomputed _ waiter)) => [(e.queue.nextId, waiter)]
  | _ => []

def begun (x : Entry) : List (OperationId × Task) :=
  AccountReplica.begun x.effects

def replies (x : Entry) : List (WaiterId × Bool) :=
  x.effects.filterMap Effect.reply?

def settled : Entry → List Ticket
  | turn e (.report ..) => owed (e.queue.operations.take 1)
  | _ => []

end Entry

def replayTicket (x : OperationId × WaiterId) : Ticket :=
  ⟨x.1, .replayPrecomputed, some x.2⟩

lemma owed_append (ops ops' : List Operation) : owed (ops ++ ops') = owed ops ++ owed ops' := by
  rw [owed, tickets, works_append, List.map_append, List.filter_append]
  rfl

lemma mem_works {op : Operation} {ops : List Operation} : op ∈ works ops ↔ op ∈ ops ∧ op.content.isWork = true :=
  List.mem_filter

namespace Engine

variable {e : Engine} {op : Operation} {rest : List Operation} {i : Input}

lemma requests_eq (e : Engine) (i : Input) : (Entry.turn e i).requests = pendings (e.submitted i) := by
  cases i with
  | command c => cases c <;> rfl
  | report id r => rfl

lemma waiters_eq (e : Engine) (i : Input) :
    ((e.submitted i).map Operation.ticket).filter (·.kind = .replayPrecomputed) =
      (Entry.turn e i).waiters.map replayTicket := by
  cases i with
  | command c => cases c <;> rfl
  | report id r => rfl

lemma owed_step (h : e.Settled) (he : e.effects = []) (hd : e.Due i) :
    (Entry.turn e i).settled ++ owed (e.step i).queue.operations =
      owed e.queue.operations ++ (Entry.turn e i).waiters.map replayTicket := by
  have hs : (Entry.turn e i).settled ++ owed (e.others i) = owed e.queue.operations := by
    cases hd with
    | command c => rfl
    | report op rest r hq hk =>
      rw [Entry.settled, others, hq]
      exact (owed_append [op] rest).symm
  rw [← hs, List.append_assoc, ← waiters_eq, owed, (workTurn_of_due h he hd).tickets, List.map_append,
    List.filter_append, owed_leftWorks]

lemma replies_report {r : Report} (h : e.Settled) (he : e.effects = []) (hq : e.queue.operations = op :: rest)
    (hk : r.kind = op.content.kind) : (Entry.turn e (.report op.id r)).replies =
      (r.marks op.content e.caughtUp).filterMap Mark.reply? := by
  rw [Entry.replies, Entry.effects, ← filterMap_reply, (markTurn_of_due h he (.report op rest r hq hk)).marks,
    List.filterMap_append, marks, front_cons hq, Option.elim_some]
  split <;> simp [Mark.reply?]

lemma replies_command (h : e.Settled) (he : e.effects = []) (c : Command) :
    (Entry.turn e (.command c)).replies = [] := by
  rw [Entry.replies, Entry.effects, ← filterMap_reply, (markTurn_of_due h he (.command c)).marks,
    List.filterMap_append, marks]
  split <;> simp [Mark.reply?]

lemma reply_marks (r : Report) (c : Content) (times : Nat) : (r.marks c times).filterMap Mark.reply? =
    match r with
    | .precomputedReplayed result => c.waiter?.toList.map (·, result.isOk)
    | _ => [] := by
  cases r with
  | precomputedReplayed result =>
    simp only [Report.marks]
    cases c.waiter? <;> rfl
  | differencePolled outcome =>
    simp only [Report.marks]
    split <;> rfl
  | _ => rfl

lemma owed_singleton (op : Operation) :
    owed [op] = if op.content.kind = .replayPrecomputed then [op.ticket] else [] := by
  obtain ⟨id, c, running⟩ := op
  cases c <;> rfl

lemma waiters_settled (h : e.Settled) (he : e.effects = []) (hd : e.Due i) :
    (Entry.turn e i).settled.filterMap (·.waiter) = (Entry.turn e i).replies.map (·.1) := by
  cases hd with
  | command c =>
    rw [replies_command h he]
    rfl
  | report op rest r hq hk =>
    rw [replies_report h he hq hk, reply_marks, Entry.settled, hq, List.take_succ_cons, List.take_zero, owed_singleton,
      ← hk]
    cases r with
    | precomputedReplayed result =>
      change [op.ticket].filterMap (·.waiter) = _
      simp only [List.filterMap_cons, Operation.ticket]
      cases op.content.waiter? <;> rfl
    | _ => rfl

lemma requests_cases (h : e.Settled) (he : e.effects = []) (hd : e.Due i) :
    (Entry.turn e i).requests = [] ∨
      ∃ t, (Entry.turn e i).requests = [(e.queue.nextId, t)] ∧ e.queue.issued < (e.step i).queue.issued := by
  have hi := (hands_step h he hd).1.issued
  cases hd with
  | command c =>
    cases c with
    | addCustom work => exact .inr ⟨_, rfl, hi⟩
    | replayPrecomputed state waiter => exact .inr ⟨_, rfl, hi⟩
    | _ => exact .inl rfl
  | report => exact .inl rfl

lemma WorkTurn.still (h : e.WorkTurn i) (hm : op ∈ leftWorks (e.restarts i) (e.others i) ++ e.submitted i) :
    ∃ op' ∈ (e.step i).queue.operations, op'.id = op.id ∧ op'.content.kind = op.content.kind := by
  have ht : op.ticket ∈ AccountReplica.tickets (e.step i).queue.operations := by
    rw [h.tickets]
    exact List.mem_map_of_mem hm
  obtain ⟨op', hm', ht'⟩ := List.mem_map.mp ht
  exact ⟨op', (mem_works.mp hm').1, congrArg Ticket.id ht', congrArg Ticket.kind ht'⟩

/-- Custom work leaves the queue when it has finished, or before it is started in a restructuring. -/
lemma custom_step (h : e.Settled) (he : e.effects = []) (hd : e.Due i) (hm : op ∈ e.queue.operations)
    (hc : op.content.kind = .custom) :
    (∃ op' ∈ (e.step i).queue.operations, op'.id = op.id ∧ op'.content.kind = .custom) ∨
      i = .report op.id .customFinished ∨ op.running = false ∧ e.restarts i = true := by
  have hw : op.content.isWork = true := by simp [Content.isWork, hc]
  have hleft : op ∈ leftWorks (e.restarts i) (e.others i) ∨
      i = .report op.id .customFinished ∨ op.running = false ∧ e.restarts i = true := by
    have ho : op ∈ e.others i ∨ i = .report op.id .customFinished := by
      cases hd with
      | command c => exact .inl hm
      | report op' rest r hq hk =>
        rw [hq] at hm
        rcases List.mem_cons.mp hm with rfl | hm
        · rw [hc] at hk
          cases r <;> first | exact .inr rfl | cases hk
        · exact .inl (by rwa [others, hq])
    refine ho.elim (fun ho => ?_) (fun hi => .inr (.inl hi))
    simp only [leftWorks]
    split
    · next hr =>
      cases hrun : op.running with
      | true => exact .inl (List.mem_filter.mpr ⟨mem_works.mpr ⟨ho, hw⟩, by simp [Operation.outlasts, hrun]⟩)
      | false => exact .inr (.inr ⟨rfl, hr⟩)
    · exact .inl (mem_works.mpr ⟨ho, hw⟩)
  refine hleft.imp_left fun hl => ?_
  obtain ⟨op', hm', hi', hk'⟩ := (workTurn_of_due h he hd).still (List.mem_append_left _ hl)
  exact ⟨op', hm', hi', hk'.trans hc⟩

lemma queued_step (h : e.Settled) (he : e.effects = []) (hd : e.Due i) {x : OperationId × Task}
    (hx : x ∈ (Entry.turn e i).requests) :
    ∃ op ∈ (e.step i).queue.operations, op.id = x.1 ∧ op.content.kind = x.2.kind := by
  obtain ⟨op, hs, hi, hk⟩ : ∃ op ∈ e.submitted i, op.id = x.1 ∧ op.content.kind = x.2.kind := by
    cases i with
    | command c =>
      cases c with
      | addCustom work =>
        obtain rfl := List.mem_singleton.mp hx
        exact ⟨_, List.mem_cons_self, rfl, rfl⟩
      | replayPrecomputed state waiter =>
        obtain rfl := List.mem_singleton.mp hx
        exact ⟨_, List.mem_cons_self, rfl, rfl⟩
      | _ => cases hx
    | report => cases hx
  obtain ⟨op', hm', hi', hk'⟩ := (workTurn_of_due h he hd).still (List.mem_append_right _ hs)
  exact ⟨op', hm', hi'.trans hi, hk'.trans hk⟩

end Engine

lemma Errand.proceed_ne_task (x : Errand) (c : Circumstances) (s : SharedStorage) (t : Task) :
    (x.proceed c s).errand ≠ .task t := by
  cases x with
  | task t' =>
    cases t' with
    | pollDifference events =>
      simp only [proceed]
      split <;> rintro ⟨⟩
    | _ => rintro ⟨⟩
  | asked events question => cases question <;> rintro ⟨⟩
  | _ => rintro ⟨⟩

namespace Replica

variable {r r' : Replica}

structure Tended (r : Replica) : Prop where
  order : (r.history.flatMap Entry.begun ++ pendings r.engine.queue.operations).Sublist
    (r.history.flatMap Entry.requests)
  kept : (r.history.flatMap Entry.begun ++ pendings r.engine.queue.operations).filter (·.2.isReplay) =
    (r.history.flatMap Entry.requests).filter (·.2.isReplay)
  issued : ∀ x ∈ r.history.flatMap Entry.requests, x.1.val ≤ r.engine.queue.issued
  distinct : ((r.history.flatMap Entry.requests).map (·.1)).Nodup
  owed : r.history.flatMap Entry.settled ++ owed r.engine.queue.operations =
    (r.history.flatMap Entry.waiters).map replayTicket
  replied : (r.history.flatMap Entry.settled).filterMap (·.waiter) = (r.history.flatMap Entry.replies).map (·.1)

/-- What has begun or waits is as before, less the custom work that a restructuring drops, and then what is asked for. -/
lemma begun_turned (hs : r.Sound) {i : Input} (hd : r.engine.Due i) (underway : List (OperationId × Errand)) :
    (r.turned i underway).history.flatMap Entry.begun ++ pendings (r.turned i underway).engine.queue.operations =
      (r.history.flatMap Entry.begun ++ if r.engine.restarts i then
        (pendings r.engine.queue.operations).filter (·.2.isReplay) else pendings r.engine.queue.operations) ++
        (Entry.turn r.engine i).requests := by
  have ht := (Engine.workTurn_of_due hs.settled hs.effects hd).tasks
  rw [← Engine.requests_eq] at ht
  have hq : (r.turned i underway).engine.queue = (r.engine.step i).queue := rfl
  rw [flatMap_turned, hq, List.append_assoc, List.append_assoc, ← ht]
  rfl

lemma Tended.turned (h : r.Tended) (hs : r.Sound) {i : Input} (hd : r.engine.Due i)
    (underway : List (OperationId × Errand)) : (r.turned i underway).Tended where
  order := by
    rw [begun_turned hs hd, flatMap_turned]
    refine List.Sublist.append (.trans (List.Sublist.append_left ?_ _) h.order) (.refl _)
    split
    · exact List.filter_sublist
    · exact .refl _
  kept := by
    rw [begun_turned hs hd, flatMap_turned, List.filter_append, List.filter_append, List.filter_append, ← h.kept,
      List.filter_append]
    split
    · rw [List.filter_filter]
      simp
    · rfl
  issued := by
    rw [flatMap_turned, List.forall_mem_append]
    refine ⟨fun x hx => Nat.le_trans (h.issued x hx) (Engine.issued_step hs.settled hs.effects hd), ?_⟩
    rcases Engine.requests_cases hs.settled hs.effects hd with hn | ⟨t, hn, hlt⟩
    · rw [hn]
      exact List.forall_mem_nil _
    · rw [hn]
      exact List.forall_mem_singleton.mpr hlt
  distinct := by
    rw [flatMap_turned, List.map_append]
    rcases Engine.requests_cases hs.settled hs.effects hd with hn | ⟨t, hn, hlt⟩
    · rw [hn, List.map_nil, List.append_nil]
      exact h.distinct
    · rw [hn]
      refine List.nodup_append.mpr ⟨h.distinct, List.nodup_singleton _, ?_⟩
      rintro id hid _ hm rfl
      obtain ⟨x, hx, rfl⟩ := List.mem_map.mp hid
      have hi := h.issued x hx
      rw [List.mem_singleton.mp hm] at hi
      exact absurd hi (Nat.not_succ_le_self _)
  owed := by
    have hq : (r.turned i underway).engine.queue = (r.engine.step i).queue := rfl
    rw [flatMap_turned, flatMap_turned, hq, List.append_assoc, Engine.owed_step hs.settled hs.effects hd,
      ← List.append_assoc, h.owed, List.map_append]
  replied := by
    rw [flatMap_turned, flatMap_turned, List.filterMap_append, List.map_append, h.replied,
      Engine.waiters_settled hs.settled hs.effects hd]

lemma tended_advance (hs : r.Sound) (ha : r.Advance r') (h : r.Tended) : r'.Tended := by
  obtain ⟨i, underway, hd, rfl⟩ | ⟨he, hh⟩ := ha.turned_or
  · exact h.turned hs hd underway
  · have hf {α : Type} {f : Entry → List α} (hf : ∀ id what, f (.commit id what) = []) :
        r'.history.flatMap f = r.history.flatMap f := flatMap_still hf hh
    have hb := hf (f := Entry.begun) fun _ _ => rfl
    have hq := hf (f := Entry.requests) fun _ _ => rfl
    have ho := hf (f := Entry.settled) fun _ _ => rfl
    exact
      { order := by rw [hb, hq, he]; exact h.order
        kept := by rw [hb, hq, he]; exact h.kept
        issued := by rw [hq, he]; exact h.issued
        distinct := by rw [hq]; exact h.distinct
        owed := by rw [ho, hf (f := Entry.waiters) fun _ _ => rfl, he]; exact h.owed
        replied := by rw [ho, hf (f := Entry.replies) fun _ _ => rfl]; exact h.replied }

lemma tended_of_run (retryDelay : Nat) (storage : SharedStorage) (moves : List Move) :
    ((new retryDelay storage).run moves).Tended :=
  run_induct ⟨.refl _, rfl, List.forall_mem_nil _, List.nodup_nil, rfl, rfl⟩ (fun _ _ => tended_advance) moves

lemma begun_of_launched {ds : List Deed} {xs : List Effect} {id : OperationId} {t : Task}
    (hd : ∀ d ∈ ds, d ∈ deeds xs) (h : (id, .task t) ∈ launched ds) (ht : t.isWork = true) : (id, t) ∈ begun xs := by
  obtain ⟨d, hm, he⟩ := List.mem_filterMap.mp h
  have hx := hd d hm
  cases d with
  | launch id' task =>
    cases task with
    | none => cases he
    | some task =>
      cases he
      exact List.mem_filterMap.mpr ⟨_, mem_effects_of_launch hx, by simp [Effect.begun?, ht]⟩
  | _ => cases he

def Working (r : Replica) : Prop :=
  ∀ id t, (id, .task t) ∈ r.underway → t.isWork = true → (id, t) ∈ r.history.flatMap Entry.begun

lemma working_advance (ha : r.Advance r') (h : r.Working) : r'.Working := by
  have hturn {i : Input} {ds : List Deed} (hd : ∀ d ∈ ds, d ∈ deeds (r.engine.step i).effects) :
      (r.turned i (launched ds)).Working := by
    intro id t hm ht
    rw [flatMap_turned]
    exact List.mem_append_right _ (begun_of_launched hd hm ht)
  cases ha with
  | still => exact h
  | interfered s hs => exact h
  | proceeded op rest x c hq hu hk =>
    intro id t hm
    obtain ⟨-, he⟩ := Prod.mk.inj (List.mem_singleton.mp hm)
    exact absurd he.symm (x.proceed_ne_task c r.storage t)
  | commanded op rest x c hq hu ho hd =>
    intro id t hm ht
    rw [flatMap_turned]
    exact List.mem_append_left _ (h id t (hu ▸ hm) ht)
  | started c ds hq hu hi hl hd => exact hturn fun d hm => hd ▸ hm
  | reported op rest report ds hq hu hk hi hl hd => exact hturn fun d hm => hd ▸ List.mem_append_right _ hm

lemma working_of_run (retryDelay : Nat) (storage : SharedStorage) (moves : List Move) :
    ((new retryDelay storage).run moves).Working :=
  run_induct (fun _ _ hm => absurd hm List.not_mem_nil) (fun _ _ _ => working_advance) moves

end Replica

namespace Engine

def waiters (e : Engine) : List WaiterId :=
  e.queue.operations.filterMap (·.content.waiter?)

lemma waiters_owed (e : Engine) : (owed e.queue.operations).filterMap (·.waiter) = e.waiters := by
  rw [owed, tickets, works, List.filterMap_filter, List.filterMap_map, List.filterMap_filter, waiters]
  congr 1
  funext op
  obtain ⟨id, c, running⟩ := op
  cases c <;> rfl

end Engine

lemma isOk_iff {ε α : Type} {r : Except ε α} : r.isOk = true ↔ ∃ a, r = .ok a := by
  cases r <;> simp [Except.isOk, Except.toBool]

namespace PrecomputedState

def Stores (state : PrecomputedState) (s s' : SharedStorage) : Prop :=
  if state.resources = [] then s' = s else s.storeResources state.resources = (.ok (), s')

def Succeeds (state : PrecomputedState) (slow : Bool) (s : SharedStorage) : Prop :=
  ∃ s', state.Stores s s' ∧ ∃ g, (replayGroupsTask slow state.groups s').result = .ok g

def Stored (state : PrecomputedState) (g : GroupReplay) (s s' : Storage) : Prop :=
  g.Leaves state.groups s'.account ∧ s'.resources = (s.storeResources state.resources).resources

lemma succeeds_iff (state : PrecomputedState) (slow : Bool) (s : SharedStorage) :
    (replayPrecomputedTask slow state s).result.isOk = true ↔ state.Succeeds slow s := by
  simp only [replayPrecomputedTask, Succeeds, Stores, List.isEmpty_iff]
  split
  · simp [isOk_iff]
  · cases hs : s.storeResources state.resources with
    | mk r s' =>
      cases r with
      | error error => simp [Except.isOk, Except.toBool]
      | ok u => simp [isOk_iff]

end PrecomputedState

lemma Errand.precomputed_of_proceed {x : Errand} {c : Circumstances} {s : SharedStorage}
    {result : Except SyncError GroupReplay} (hx : ∀ report, x ≠ .report report)
    (h : (x.proceed c s).errand = .report (.precomputedReplayed result)) :
    ∃ state, x = .task (.replayPrecomputed state) ∧ result = (replayPrecomputedTask c.slow state s).result := by
  cases x with
  | task t =>
    cases t with
    | pollDifference events =>
      simp only [proceed] at h
      split at h <;> cases h
    | replayPrecomputed state =>
      cases h
      exact ⟨state, rfl, rfl⟩
    | _ => cases h
  | asked events question => cases question <;> cases h
  | timer => cases h
  | report report => exact absurd rfl (hx report)

namespace Replica

structure ServesCallers (start : Replica) (moves : List Move) : Prop where
  distinct : (((start.run moves).history.flatMap Entry.requests).map (·.1)).Nodup
  order : ((start.run moves).history.flatMap Entry.begun).Sublist ((start.run moves).history.flatMap Entry.requests)
  kept : ((start.run moves).history.flatMap Entry.begun ++ pendings (start.run moves).engine.queue.operations).filter
      (·.2.isReplay) = ((start.run moves).history.flatMap Entry.requests).filter (·.2.isReplay)
  /-- Who has asked for a replay was told about it, or waits still: one of the two, and once. -/
  answered : ((start.run moves).history.flatMap Entry.replies).map (·.1) ++ (start.run moves).engine.waiters =
    ((start.run moves).history.flatMap Entry.waiters).map (·.2)
  silent : ∀ e i, .turn e i ∈ (start.run moves).history →
    (∀ id result, i ≠ .report id (.precomputedReplayed result)) → (Entry.turn e i).replies = []
  replied : ∀ before after e id result,
    (start.run moves).history = before ++ .turn e (.report id (.precomputedReplayed result)) :: after →
    ∃ state waiter success, (id, .replayPrecomputed state) ∈ before.flatMap Entry.requests ∧
      (id, waiter) ∈ before.flatMap Entry.waiters ∧
      (Entry.turn e (.report id (.precomputedReplayed result))).replies = [(waiter, success)] ∧
      ∃ moves₁ n c moves₂, moves = moves₁ ++ .proceed n c :: moves₂ ∧
        (start.run moves₁).underway[n]? = some (id, .task (.replayPrecomputed state)) ∧
        (success = true ↔ state.Succeeds c.slow (start.run moves₁).storage) ∧
        (success = true → ∃ g, result = .ok g ∧ state.Stored g (start.run moves₁).storage.storage
          (start.run (moves₁ ++ [.proceed n c])).storage.storage)
  queued : ∀ e i, .turn e i ∈ (start.run moves).history → ∀ x ∈ (Entry.turn e i).requests,
    ∃ op ∈ (e.step i).queue.operations, op.id = x.1 ∧ op.content.kind = x.2.kind
  left : ∀ e i, .turn e i ∈ (start.run moves).history → ∀ op ∈ e.queue.operations, op.content.kind = .custom →
    (∃ op' ∈ (e.step i).queue.operations, op'.id = op.id ∧ op'.content.kind = .custom) ∨
      i = .report op.id .customFinished ∨ op.running = false ∧ e.restarts i = true

lemma waiter_of_owed {r : Replica} {before : List Entry} {op : Operation} {rest : List Operation} (h : r.Tended)
    (hb : r.history = before) (hq : r.engine.queue.operations = op :: rest)
    (hk : op.content.kind = .replayPrecomputed) :
    ∃ waiter, (op.id, waiter) ∈ before.flatMap Entry.waiters ∧ op.content.waiter? = some waiter := by
  have hm : op.ticket ∈ owed r.engine.queue.operations := by
    have hw : op ∈ works r.engine.queue.operations :=
      mem_works.mpr ⟨hq ▸ List.mem_cons_self, by simp [Content.isWork, hk]⟩
    exact List.mem_filter.mpr ⟨List.mem_map_of_mem hw, by simp [Operation.ticket, hk]⟩
  have ho := List.mem_append_right (r.history.flatMap Entry.settled) hm
  rw [h.owed, hb] at ho
  obtain ⟨⟨id, waiter⟩, hx, he⟩ := List.mem_map.mp ho
  obtain rfl : id = op.id := congrArg Ticket.id he
  exact ⟨waiter, hx, (congrArg Ticket.waiter he).symm⟩

lemma replied_of_entry {retryDelay : Nat} {storage : SharedStorage} {moves : List Move} {before after : List Entry}
    {e : Engine} {id : OperationId} {result : Except SyncError GroupReplay}
    (h : ((new retryDelay storage).run moves).history =
      before ++ .turn e (.report id (.precomputedReplayed result)) :: after) :
    ∃ state waiter success, (id, .replayPrecomputed state) ∈ before.flatMap Entry.requests ∧
      (id, waiter) ∈ before.flatMap Entry.waiters ∧
      (Entry.turn e (.report id (.precomputedReplayed result))).replies = [(waiter, success)] ∧
      ∃ moves₁ n c moves₂, moves = moves₁ ++ .proceed n c :: moves₂ ∧
        ((new retryDelay storage).run moves₁).underway[n]? = some (id, .task (.replayPrecomputed state)) ∧
        (success = true ↔ state.Succeeds c.slow ((new retryDelay storage).run moves₁).storage) ∧
        (success = true → ∃ g, result = .ok g ∧ state.Stored g ((new retryDelay storage).run moves₁).storage.storage
          ((new retryDelay storage).run (moves₁ ++ [.proceed n c])).storage.storage) := by
  obtain ⟨hs, he, hd⟩ := due_of_turn (h ▸ List.mem_append_right _ List.mem_cons_self)
  obtain ⟨taken, m, later, rfl, hb, hx⟩ := move_of_entry h
  obtain ⟨rfl, ⟨c, hc, -⟩ | ⟨op, rest, report, ds, hi, hq, hu, -⟩⟩ :=
    (advance (sound_of_run retryDelay storage taken) m).1.turn_cases (hb.symm ▸ hx)
  · cases hc
  cases hi
  have ht := tended_of_run retryDelay storage taken
  have hk : (Report.precomputedReplayed result).kind = op.content.kind := by
    cases sound_of_run retryDelay storage taken with
    | rest _ hq' => cases hq.symm.trans hq'
    | busy _ op' rest' x hq' _ _ _ hu' hk =>
      obtain ⟨rfl, rfl⟩ := List.cons.inj (hq.symm.trans hq')
      cases hu.symm.trans hu'
      exact hk
  -- The result is what the task came to when it went on, and that task was begun at a turn before.
  obtain ⟨moves₁, n, c, moves₂, x, rfl, hn, hx', hp⟩ := proceed_of_report (hu ▸ List.mem_cons_self)
  obtain ⟨state, rfl, rfl⟩ := Errand.precomputed_of_proceed hx' hp
  obtain ⟨waiter, hw, hwait⟩ := waiter_of_owed ht hb hq hk.symm
  refine ⟨state, waiter, _, ?_, hw, ?_, moves₁, n, c, moves₂ ++ m :: later, by simp, hn,
    state.succeeds_iff c.slow _, fun hok => ?_⟩
  · have hbegun := working_of_run retryDelay storage moves₁ op.id _ (List.mem_of_getElem? hn) rfl
    obtain ⟨later', hl⟩ := history_run retryDelay storage moves₁ (.proceed n c :: moves₂)
    have hsub := ht.order.subset
    rw [← hb]
    refine hsub (List.mem_append_left _ ?_)
    rw [hl, List.flatMap_append]
    exact List.mem_append_left _ hbegun
  · rw [Engine.replies_report hs he hq hk, Engine.reply_marks]
    simp [hwait]
  · obtain ⟨g, hg⟩ := isOk_iff.mp hok
    have hr := run_concat (new retryDelay storage) moves₁ (.proceed n c)
    simp only [move, hn] at hr
    rw [hr]
    exact ⟨g, hg, leaves_of_replayPrecomputedTask hg⟩

theorem servesCallers_of_run (retryDelay : Nat) (storage : SharedStorage) (moves : List Move) :
    (new retryDelay storage).ServesCallers moves := by
  have ht := tended_of_run retryDelay storage moves
  exact
    { distinct := ht.distinct
      order := (List.sublist_append_left _ _).trans ht.order
      kept := ht.kept
      answered := by
        have ho := congrArg (List.filterMap Ticket.waiter) ht.owed
        rw [List.filterMap_append, ht.replied, Engine.waiters_owed, List.filterMap_map] at ho
        rw [ho]
        simp [Function.comp_def, replayTicket]
      silent := fun e i h hn => by
        obtain ⟨hs, he, hd⟩ := due_of_turn h
        cases hd with
        | command c => exact Engine.replies_command hs he c
        | report op rest r hq hk =>
          rw [Engine.replies_report hs he hq hk, Engine.reply_marks]
          cases r with
          | precomputedReplayed result => exact absurd rfl (hn op.id result)
          | _ => rfl
      replied := fun _ _ _ _ _ => replied_of_entry
      queued := fun e i h x hx => by
        obtain ⟨hs, he, hd⟩ := due_of_turn h
        exact Engine.queued_step hs he hd hx
      left := fun e i h op hm hc => by
        obtain ⟨hs, he, hd⟩ := due_of_turn h
        exact Engine.custom_step hs he hd hm hc }

def interrupted : List Move :=
  [.command (.addCustom 1), .command (.replayPrecomputed .empty 5), .command (.addCustom 2), .command .reset,
    .proceed 0 calm, .deliver 0, .proceed 0 calm, .proceed 0 calm, .deliver 0, .proceed 0 calm, .deliver 0]

example : ((new 2 sampleStorage).run interrupted).history.flatMap Entry.begun =
      [(⟨1⟩, .custom 1), (⟨2⟩, .replayPrecomputed .empty)] ∧
    ((new 2 sampleStorage).run interrupted).history.flatMap Entry.replies = [(5, true)] ∧
    ((new 2 sampleStorage).run interrupted).engine.queue.operations = [] :=
  ⟨rfl, rfl, rfl⟩

end Replica

end AccountReplica
