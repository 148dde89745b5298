import AccountReplica.Proofs.Engine.Report

/-! The turns of the engine: a command with an operation under way changes what waits behind it, and
everything else ends with a start. -/

namespace AccountReplica

/-- Of the operations in `rest` all are still in `rest'`, after a reset only the precomputed states. What
else is there came later. -/
structure Survives (rest rest' : List Operation) (issued : Nat) (reset : Bool) : Prop where
  old : ∀ op' ∈ rest', (∃ op ∈ rest, op.Alike op' ∧ (reset → op.content.kind = .replayPrecomputed)) ∨
    issued < op'.id.val
  still : ∀ op ∈ rest, (reset → op.content.kind = .replayPrecomputed) → ∃ op' ∈ rest', op.Alike op'

namespace Survives

variable {rest rest' rest'' : List Operation} {issued issued' : Nat} {reset reset' : Bool}

lemma of_alike (h : Alike rest rest') (issued : Nat) : Survives rest rest' issued false where
  old op' hm := by
    obtain ⟨op, ho, ha⟩ := h.exists_of_mem hm
    exact .inl ⟨op, ho, ha, by rintro ⟨⟩⟩
  still op hm _ := h.exists_of_mem_left hm

lemma refl (rest : List Operation) (issued : Nat) : Survives rest rest issued false :=
  of_alike (.refl rest) issued

lemma trans (h : Survives rest rest' issued reset) (h' : Survives rest' rest'' issued' reset')
    (hi : issued ≤ issued') : Survives rest rest'' issued (reset || reset') where
  old op'' hm := by
    rcases h'.old op'' hm with ⟨op', ho', ha', hr'⟩ | hn
    · rcases h.old op' ho' with ⟨op, ho, ha, hr⟩ | hn
      · refine .inl ⟨op, ho, ha.trans ha', fun hrr => ?_⟩
        rcases (Bool.or_eq_true _ _).mp hrr with hrr | hrr
        · exact hr hrr
        · exact ha.kind ▸ hr' hrr
      · exact .inr (ha'.id ▸ hn)
    · exact .inr (Nat.lt_of_le_of_lt hi hn)
  still op ho hr := by
    obtain ⟨op', ho', ha⟩ := h.still op ho fun h => hr (by rw [h, Bool.true_or])
    obtain ⟨op'', ho'', ha'⟩ := h'.still op' ho' fun h => ha.kind ▸ hr (by rw [h, Bool.or_true])
    exact ⟨op'', ho'', ha.trans ha'⟩

lemma concat (op : Operation) (hi : issued < op.id.val) : Survives rest (rest ++ [op]) issued false where
  old op' hm := by
    rcases List.mem_append.mp hm with hm | hm
    · exact .inl ⟨op', hm, .refl op', by rintro ⟨⟩⟩
    · exact .inr (List.mem_singleton.mp hm ▸ hi)
  still op' hm _ := ⟨op', List.mem_append_left _ hm, .refl op'⟩

lemma restarted {lead : List Operation} (h : Orderly lead rest issued) :
    Survives rest (restarted rest issued) issued true where
  old op' hm := by
    simp only [AccountReplica.restarted] at hm
    rcases List.mem_cons.mp hm with rfl | hm
    · exact .inr (Nat.lt_succ_self _)
    rcases List.mem_append.mp hm with hm | hm
    · cases hc : mergedCompletion rest with
      | none => simp [hc] at hm
      | some m =>
        simp only [hc, Option.elim_some, List.mem_singleton] at hm
        subst hm
        exact .inr (by simp)
    · obtain ⟨hm, hk⟩ := h.kind_of_isTrailing hm
      exact .inl ⟨op', hm, .refl op', fun _ => hk⟩
  still op hm hk := by
    refine ⟨op, List.mem_cons_of_mem _ (List.mem_append_right _ (List.mem_filter.mpr ⟨hm, ?_⟩)), .refl op⟩
    simp [Operation.isTrailing, (h.waits op hm).1, hk rfl]

end Survives

def Command.resets : Command → Bool
  | reset => true
  | _ => false

def Command.onCompletion : Command → Option (List MessageId × List SubscriberId) →
    Option (List MessageId × List SubscriberId)
  | pollCompletion s, none => some ([], [s])
  | pollCompletion s, some (ids, subscribers) => some (ids, subscribers ++ [s])
  | cancelCompletion s, m => m.map fun m => (m.1, m.2.filter (· ≠ s))
  | _, m => m

namespace Engine

variable {e e' : Engine} {op : Operation} {rest : List Operation}

structure Obeys (e e' : Engine) (op : Operation) (rest : List Operation) (reset : Bool) : Prop where
  queue : ∃ op' rest', e'.queue.operations = op' :: rest' ∧ op.Alike op' ∧
    Orderly [op'] rest' e'.queue.issued ∧ Survives rest rest' e.queue.issued reset
  issued : e.queue.issued ≤ e'.queue.issued
  timer : e'.timer = e.timer
  deeds : deeds e'.effects = deeds e.effects

lemma Silent.obeys (h : e.Silent e') (hq : e.queue.operations = op :: rest)
    (ho : Orderly [op] rest e.queue.issued) : e.Obeys e' op rest false where
  queue := ⟨op, rest, by rw [h.queue, hq], .refl op, by rw [h.queue]; exact ho, .refl rest _⟩
  issued := by simp [h.queue]
  timer := h.timer
  deeds := h.deeds

lemma obeys_alike {ops : List Operation} (ho : Orderly [op] rest e.queue.issued) (ha : Alike (op :: rest) ops) :
    e.Obeys { e with queue := { e.queue with operations := ops } } op rest false where
  queue := by
    cases ha with
    | cons ha hr => exact ⟨_, _, rfl, ha, ho.alike (.cons ha .nil) hr, .of_alike hr _⟩
  issued := Nat.le_refl _
  timer := rfl
  deeds := rfl

lemma obeys_insertLast {c : Content} (hq : e.queue.operations = op :: rest)
    (ho : Orderly [op] rest e.queue.issued) (hw : c.Waits) (hp : c.kind ≠ .pollDifference)
    (hc : c.kind = .pollCompletion → kindCount .pollCompletion (op :: rest) = 0) :
    e.Obeys { e with queue := (e.queue.insertLast c).2 } op rest false where
  queue :=
    ⟨op, rest ++ [⟨e.queue.nextId, c, false⟩], by simp [OperationQueue.insertLast, hq], .refl op,
      ho.concat hw hc (fun h => absurd h hp), .concat _ (Nat.lt_succ_self _)⟩
  issued := Nat.le_succ _
  timer := rfl
  deeds := rfl

lemma obeys_pollAgain (hq : e.queue.operations = op :: rest) (hr : op.running = true)
    (ho : Orderly [op] rest e.queue.issued) : e.Obeys e.pollAgain op rest true := by
  have hl : ∀ op' ∈ [op], op'.running = true := List.forall_mem_singleton.mpr hr
  have hp := pollAgain_queue (e := e) hq hl ho
  exact
    { queue := ⟨op, restarted rest e.queue.issued, by rw [hp]; rfl, .refl op, by rw [hp]; exact ho.restarted,
        .restarted ho⟩
      issued := issued_pollAgain hq hl ho
      timer := rfl
      deeds := rfl }

lemma silent_unsubscribe (e : Engine) (key : SubscriptionKey) : e.Silent (e.unsubscribe key) := by
  cases key with
  | webpage media token =>
    simp only [unsubscribe]
    split
    · exact .refl e
    · exact ⟨rfl, rfl, rfl⟩
  | nearby token =>
    simp only [unsubscribe]
    split
    · exact .refl e
    · exact ⟨rfl, rfl, rfl⟩

lemma silent_confirm (e : Engine) (listener : ListenerId) (key : SubscriptionKey) (awaited : Bool) :
    e.Silent (e.confirm listener key awaited) := by
  cases awaited with
  | true => exact .emit rfl
  | false => exact silent_unsubscribe e key

lemma silent_subscribeWebpage (e : Engine) (media : MediaId) (listener : ListenerId) (awaited : Bool) :
    e.Silent (e.command (.subscribeWebpage media listener awaited)) := by
  simp only [command]
  refine Silent.trans ?_ (silent_confirm _ _ _ awaited)
  exact ⟨rfl, rfl, rfl⟩

lemma silent_subscribeNearby (e : Engine) (listener : ListenerId) (awaited : Bool) :
    e.Silent (e.command (.subscribeNearby listener awaited)) := by
  simp only [command]
  refine Silent.trans ?_ (silent_confirm _ _ _ awaited)
  exact ⟨rfl, rfl, rfl⟩

lemma obeys_command (hq : e.queue.operations = op :: rest) (hr : op.running = true)
    (ho : Orderly [op] rest e.queue.issued) (c : Command) : e.Obeys (e.command c) op rest c.resets := by
  cases c with
  | reset => exact obeys_pollAgain hq hr ho
  | addGroups groups =>
    simp only [command, addGroups]
    split
    · exact (Silent.refl e).obeys hq ho
    · simp only [OperationQueue.extendCollect?]
      cases hx : OperationQueue.extendLast? groups e.queue.operations with
      | none =>
        exact obeys_insertLast hq ho (c := .collectGroups groups 0) trivial (by rintro ⟨⟩) (by rintro ⟨⟩)
      | some ops => exact obeys_alike ho (hq ▸ OperationQueue.alike_of_extendLast? hx)
  | replayPrecomputed state waiter =>
    exact obeys_insertLast hq ho (c := .replayPrecomputed (some state) (some waiter)) ⟨rfl, rfl⟩
      (by rintro ⟨⟩) (by rintro ⟨⟩)
  | addCustom work =>
    exact obeys_insertLast hq ho (c := .custom (some work)) rfl (by rintro ⟨⟩) (by rintro ⟨⟩)
  | pollCompletion s =>
    simp only [command, OperationQueue.joinCompletion?, OperationQueue.withCompletion?]
    cases hx : OperationQueue.updateCompletion? (fun ids subscribers => (ids, subscribers ++ [s]))
      e.queue.operations with
    | none =>
      have h0 := OperationQueue.updateCompletion?_eq_none.mp hx
      rw [hq] at h0
      exact obeys_insertLast hq ho (c := .pollCompletion [] [s]) trivial (by rintro ⟨⟩) fun _ => h0
    | some ops => exact obeys_alike ho (hq ▸ OperationQueue.alike_of_updateCompletion? hx)
  | cancelCompletion s =>
    simp only [command, OperationQueue.cancelCompletion, OperationQueue.withCompletion?]
    cases hx : OperationQueue.updateCompletion? (fun ids subscribers => (ids, subscribers.filter (· ≠ s)))
      e.queue.operations with
    | none => exact (Silent.refl e).obeys hq ho
    | some ops => exact obeys_alike ho (hq ▸ OperationQueue.alike_of_updateCompletion? hx)
  | subscribeWebpage media listener awaited => exact (silent_subscribeWebpage e media listener awaited).obeys hq ho
  | subscribeNearby listener awaited => exact (silent_subscribeNearby e listener awaited).obeys hq ho
  | unsubscribe key => exact (silent_unsubscribe e key).obeys hq ho
  | listOperations => exact (Silent.emit rfl).obeys hq ho

lemma waiting_of_empty (hq : e.queue.operations = []) (ht : e.timer = none) : e.Waiting :=
  ⟨hq ▸ .nil _, ht⟩

lemma waiting_command (hq : e.queue.operations = []) (ht : e.timer = none) (c : Command) :
    (e.command c).Waiting ∧ e.queue.issued ≤ (e.command c).queue.issued ∧
      deeds (e.command c).effects = deeds e.effects := by
  have hw := waiting_of_empty hq ht
  have h0 (k : OperationKind) : kindCount k e.queue.operations = 0 := by rw [hq]; rfl
  have hs {e' : Engine} (h : e.Silent e') :
      e'.Waiting ∧ e.queue.issued ≤ e'.queue.issued ∧ deeds e'.effects = deeds e.effects :=
    ⟨h.waiting hw, by simp [h.queue], h.deeds⟩
  have hi {c : Content} (hc : c.Waits) :
      Waiting { e with queue := (e.queue.insertLast c).2 } ∧ e.queue.issued ≤ e.queue.issued + 1 ∧
        deeds e.effects = deeds e.effects :=
    ⟨hw.insertLast hc (fun _ => h0 _) (fun _ => h0 _), Nat.le_succ _, rfl⟩
  cases c with
  | reset => exact ⟨hw.pollAgain_waiting, hw.pollAgain.issued, rfl⟩
  | addGroups groups =>
    simp only [command, addGroups]
    split
    · exact hs (.refl e)
    · have hx : e.queue.extendCollect? groups = none := by
        simp [OperationQueue.extendCollect?, hq, OperationQueue.extendLast?]
      rw [hx]
      exact hi (c := .collectGroups groups 0) trivial
  | replayPrecomputed state waiter =>
    exact hi (c := .replayPrecomputed (some state) (some waiter)) ⟨rfl, rfl⟩
  | addCustom work => exact hi (c := .custom (some work)) rfl
  | pollCompletion s =>
    have hx : e.queue.joinCompletion? s = none := by
      simp [OperationQueue.joinCompletion?, OperationQueue.withCompletion?, hq, OperationQueue.updateCompletion?]
    dsimp only [command]
    rw [hx]
    exact hi (c := .pollCompletion [] [s]) trivial
  | cancelCompletion s =>
    have hx : e.queue.cancelCompletion s = e.queue := by
      simp [OperationQueue.cancelCompletion, OperationQueue.withCompletion?, hq, OperationQueue.updateCompletion?]
    exact hs ⟨hx, rfl, rfl⟩
  | subscribeWebpage media listener awaited => exact hs (silent_subscribeWebpage e media listener awaited)
  | subscribeNearby listener awaited => exact hs (silent_subscribeNearby e listener awaited)
  | unsubscribe key => exact hs (silent_unsubscribe e key)
  | listOperations => exact hs (.emit rfl)

/-- What a turn does that ends with a start: it gives the answers, tells the event sets, and then it
launches what `Launched` says. -/
structure Turn (e e' : Engine) (answers : List Deed) (told : List EventSet) (carried : EventSet) : Prop where
  settled : e'.Settled
  issued : e.queue.issued ≤ e'.queue.issued
  deeds : ∃ ds, e'.Launched told carried ds ∧
    deeds e'.effects = deeds e.effects ++ (answers ++ told.map .tell ++ ds)

lemma silent_refreshUpdating (e : Engine) : e.Silent e.refreshUpdating := by
  simp only [refreshUpdating]
  split
  · exact .refl e
  · exact ⟨rfl, rfl, by simp [publish, emit, Effect.deed?]⟩

lemma Silent.settled (h : e.Silent e') (hs : e.Settled) : e'.Settled := by
  obtain ⟨hq, ht⟩ | ⟨op, rest, hq, hr, ho, ht⟩ := hs
  · exact .rest (by rw [h.queue, hq]) (h.timer.trans ht)
  · exact .busy op rest (by rw [h.queue, hq]) hr (by rw [h.queue]; exact ho) (h.timer.trans ht)

lemma Silent.launched {told : List EventSet} {carried : EventSet} {ds : List Deed} (h : e.Silent e')
    (hl : e.Launched told carried ds) : e'.Launched told carried ds := by
  cases hl with
  | nothing hq hf => exact .nothing (by rw [h.queue, hq]) hf
  | head op rest c hq hk hw hc hf ha => exact .head op rest c (by rw [h.queue, hq]) hk hw hc hf ha

lemma Ready.turn (h : e.Ready) : e.Turn e.startFirst.refreshUpdating [] e.told e.carried := by
  have hs := silent_refreshUpdating e.startFirst
  obtain ⟨ds, hl, hd⟩ := h.starts.deeds
  exact
    { settled := hs.settled h.starts.settled
      issued := by rw [hs.queue]; exact h.starts.issued
      deeds := ⟨ds, hs.launched hl, by rw [hs.deeds, hd, List.append_assoc, List.nil_append]⟩ }

theorem turn_of_rest (hs : e.Settled) (hq : e.queue.operations = []) (c : Command) :
    e.Turn (e.step (.command c)) [] [] .empty := by
  obtain ⟨hw, hi, hd⟩ := waiting_command hq (hs.timer_of_empty hq) c
  obtain ⟨hs, hi', hd'⟩ := hw.ready.turn
  rw [hw.told, hw.carried, hd] at hd'
  exact ⟨hs, Nat.le_trans hi hi', hd'⟩

theorem turn_of_report {r : Report} (hs : e.Settled) (hq : e.queue.operations = op :: rest)
    (hk : r.kind = op.content.kind) :
    e.Turn (e.step (.report op.id r)) op.content.answers r.told r.carried := by
  obtain ⟨hr, ho, ht⟩ := hs.head hq
  have hh := handles_report hq hr ho ht hk
  obtain ⟨hs, hi, ds, hl, hd⟩ := hh.ready.turn
  rw [hh.told, hh.carried] at hl
  rw [hh.told, hh.deeds] at hd
  refine ⟨hs, Nat.le_trans hh.issued hi, ds, hl, hd.trans ?_⟩
  simp [popped, drop]

theorem completion_of_report {r : Report} (hs : e.Settled) (hq : e.queue.operations = op :: rest)
    (hk : r.kind = op.content.kind) :
    (e.step (.report op.id r)).queue.completion? =
      (rest.findSome? (·.content.completion?)).map fun c => (c.1 ++ r.told.flatMap (·.added), c.2) := by
  obtain ⟨hr, ho, ht⟩ := hs.head hq
  have hh := handles_report hq hr ho ht hk
  have hs' : (e.step (.report op.id r)).queue = _ := (silent_refreshUpdating _).queue
  rw [hs', receive, hh.ready.starts.completion, hh.completion, hh.told, OperationQueue.completion?_eq]
  rfl

theorem obeys_step (hs : e.Settled) (hq : e.queue.operations = op :: rest) (c : Command) :
    e.Obeys (e.step (.command c)) op rest c.resets := by
  obtain ⟨hr, ho, -⟩ := hs.head hq
  obtain ⟨⟨op', rest', hq', ha, ho', hv⟩, hi, ht, hd⟩ := obeys_command hq hr ho c
  have hs' := silent_refreshUpdating (e.command c)
  have he : e.step (.command c) = (e.command c).refreshUpdating :=
    congrArg refreshUpdating (startFirst_running hq' (ha.running.trans hr))
  rw [he]
  exact
    { queue := ⟨op', rest', by rw [hs'.queue, hq'], ha, by rw [hs'.queue]; exact ho', hv⟩
      issued := by rw [hs'.queue]; exact hi
      timer := hs'.timer.trans ht
      deeds := hs'.deeds.trans hd }

lemma completion_command (h : e.Settled) (c : Command) :
    (e.command c).queue.completion? = c.onCompletion e.queue.completion? := by
  cases c with
  | reset =>
    obtain ⟨hq, ht⟩ | ⟨op, rest, hq, hr, ho, ht⟩ := h
    · exact ((waiting_of_empty hq ht).pollAgain).completion
    · exact completion?_pollAgain hq (List.forall_mem_singleton.mpr hr) ho
  | addGroups groups =>
    simp only [command, addGroups]
    split
    · rfl
    · simp only [OperationQueue.extendCollect?]
      cases hx : OperationQueue.extendLast? groups e.queue.operations with
      | none => exact OperationQueue.completion?_insertLast rfl _
      | some ops =>
        simp only [Option.map_some, Option.getD_some, OperationQueue.completion?_eq]
        exact OperationQueue.findSome?_extendLast? hx
  | replayPrecomputed state waiter => exact OperationQueue.completion?_insertLast rfl _
  | addCustom work => exact OperationQueue.completion?_insertLast rfl _
  | pollCompletion s =>
    simp only [command, OperationQueue.joinCompletion?, OperationQueue.withCompletion?, OperationQueue.completion?_eq]
    cases hx : OperationQueue.updateCompletion? (fun ids subscribers => (ids, subscribers ++ [s]))
      e.queue.operations with
    | none =>
      have hn := findSome?_completion_eq_none (OperationQueue.updateCompletion?_eq_none.mp hx)
      simp only [Option.map_none, Option.getD_none, OperationQueue.insertLast, List.findSome?_append, hn,
        Option.none_or]
      rfl
    | some ops =>
      have hu := OperationQueue.findSome?_updateCompletion? hx
      obtain ⟨m, hm⟩ : ∃ m, e.queue.operations.findSome? (·.content.completion?) = some m := by
        rw [← Option.isSome_iff_exists, Option.isSome_iff_ne_none]
        intro hn
        cases (OperationQueue.updateCompletion?_eq_none.mpr (kindCount_eq_zero hn)).symm.trans hx
      simp [hu, hm, Command.onCompletion]
  | cancelCompletion s =>
    simp only [command, OperationQueue.cancelCompletion, OperationQueue.withCompletion?, OperationQueue.completion?_eq]
    cases hx : OperationQueue.updateCompletion? (fun ids subscribers => (ids, subscribers.filter (· ≠ s)))
      e.queue.operations with
    | none =>
      have hn := findSome?_completion_eq_none (OperationQueue.updateCompletion?_eq_none.mp hx)
      simp [hn, Command.onCompletion]
    | some ops => exact OperationQueue.findSome?_updateCompletion? hx
  | subscribeWebpage media listener awaited => rw [(silent_subscribeWebpage e media listener awaited).queue]; rfl
  | subscribeNearby listener awaited => rw [(silent_subscribeNearby e listener awaited).queue]; rfl
  | unsubscribe key => rw [command, (silent_unsubscribe e key).queue]; rfl
  | listOperations => rfl

lemma completion_step (h : e.Settled) (c : Command) :
    (e.step (.command c)).queue.completion? = c.onCompletion e.queue.completion? := by
  rw [step, (silent_refreshUpdating _).queue, receive, ← completion_command h]
  obtain ⟨hq, ht⟩ | ⟨op, rest, hq, hr, ho, ht⟩ := h
  · have hw := (waiting_command hq ht c).1
    rw [hw.ready.starts.completion, hw.told]
    simp
  · obtain ⟨op', rest', hq', ha, -⟩ := (obeys_command hq hr ho c).queue
    rw [startFirst_running hq' (ha.running.trans hr)]

lemma completion_before_report {r : Report} {m : List MessageId × List SubscriberId} (h : e.Settled)
    (hq : e.queue.operations = op :: rest) (hk : r.kind = op.content.kind)
    (hm : (e.step (.report op.id r)).queue.completion? = some m) :
    op.content.kind ≠ .pollCompletion ∧ ∃ ids, e.queue.completion? = some (ids, m.2) ∧
      m.1 = ids ++ r.told.flatMap (·.added) := by
  obtain ⟨-, ho, -⟩ := h.head hq
  rw [completion_of_report h hq hk] at hm
  obtain ⟨m', hm', rfl⟩ := Option.map_eq_some_iff.mp hm
  have hn : op.content.kind ≠ .pollCompletion := by
    intro hn
    rw [findSome?_completion_eq_none (ho.completions_behind hn)] at hm'
    cases hm'
  refine ⟨hn, m'.1, ?_, rfl⟩
  rw [OperationQueue.completion?_behind hq (Content.completion?_eq_none hn), hm']

def subscribers (e : Engine) : List SubscriberId :=
  e.queue.completion?.elim [] (·.2)

lemma mem_subscribers {s : SubscriberId} :
    s ∈ e.subscribers ↔ ∃ c, e.queue.completion? = some c ∧ s ∈ c.2 := by
  simp only [subscribers]
  cases e.queue.completion? <;> simp

lemma subscribers_step (h : e.Settled) {c : Command} {s : SubscriberId}
    (hm : s ∈ (e.step (.command c)).subscribers) : s ∈ e.subscribers ∨ c = .pollCompletion s := by
  rw [subscribers, completion_step h] at hm
  rw [subscribers]
  generalize e.queue.completion? = m at hm ⊢
  cases c with
  | pollCompletion s' =>
    cases m with
    | none => exact .inr (by rw [List.mem_singleton.mp hm])
    | some m =>
      rcases List.mem_append.mp hm with hm | hm
      · exact .inl hm
      · exact .inr (by rw [List.mem_singleton.mp hm])
  | cancelCompletion s' =>
    cases m with
    | none => cases hm
    | some m => exact .inl (List.mem_filter.mp hm).1
  | _ => exact .inl hm

lemma subscribers_report {r : Report} {s : SubscriberId} (h : e.Settled) (hq : e.queue.operations = op :: rest)
    (hk : r.kind = op.content.kind) (hm : s ∈ (e.step (.report op.id r)).subscribers) :
    s ∈ e.subscribers ∧ op.content.kind ≠ .pollCompletion := by
  obtain ⟨m, hc, hs⟩ := mem_subscribers.mp hm
  obtain ⟨hn, ids, he, -⟩ := completion_before_report h hq hk hc
  exact ⟨mem_subscribers.mpr ⟨_, he, hs⟩, hn⟩

end Engine

end AccountReplica
