import AccountReplica.Proofs.Replica.Sound

/-! What is still queued when someone who waits for the completion poll is answered. -/

namespace AccountReplica

namespace Engine

def Fenced (e : Engine) : Prop :=
  ∃ op rest, e.queue.operations = op :: rest ∧ op.running = true ∧ op.content.kind = .pollCompletion

def Answers (e : Engine) (i : Input) (s : SubscriberId) : Prop :=
  ∃ ids, .answerCompletion s ids ∈ (e.step i).effects

end Engine

namespace Entry

def Joins (s : SubscriberId) : Entry → Prop
  | turn _ (.command (.pollCompletion s')) => s' = s
  | _ => False

def resets : Entry → Bool
  | turn _ (.command c) => c.resets
  | _ => false

end Entry

lemma answer_of_mem {xs : List Effect} {s : SubscriberId} {ids : List MessageId} (h : .answerCompletion s ids ∈ xs) :
    .answer s ids ∈ deeds xs :=
  List.mem_filterMap.mpr ⟨_, h, rfl⟩

lemma mem_answers {c : Content} {s : SubscriberId} {ids : List MessageId} (h : .answer s ids ∈ c.answers) :
    ∃ subscribers, c = .pollCompletion ids subscribers ∧ s ∈ subscribers := by
  cases c with
  | pollCompletion ids' subscribers =>
    obtain ⟨s', hs, he⟩ := List.mem_map.mp h
    cases he
    exact ⟨subscribers, rfl, hs⟩
  | _ => cases h

namespace Engine

structure Joined (e : Engine) (s : SubscriberId) (between : List Entry) (e' : Engine) : Prop where
  settled : e.Settled
  issued : e.queue.issued ≤ e'.queue.issued
  /-- A completion poll that starts later leaves nothing old behind it. -/
  later : ¬e.Fenced → ∀ op rest, e'.queue.operations = op :: rest → op.content.kind = .pollCompletion →
    ∀ op' ∈ rest, e.queue.issued < op'.id.val
  /-- The one in flight stays in front until it is over, and then `s` waits no more. -/
  inFlight : e.Fenced → s ∈ e'.subscribers →
    ∃ op rest op' rest', e.queue.operations = op :: rest ∧ e'.queue.operations = op' :: rest' ∧
      op.Alike op' ∧ Survives rest rest' e.queue.issued (between.any Entry.resets)

variable {e e' e'' : Engine} {op : Operation} {rest : List Operation} {s : SubscriberId} {between : List Entry}

lemma not_fenced (hq : e.queue.operations = []) : ¬e.Fenced := by
  rintro ⟨op, rest, hq', -⟩
  cases hq.symm.trans hq'

lemma Launched.later {told : List EventSet} {carried : EventSet} {ds : List Deed} {issued : Nat}
    (hl : e.Launched told carried ds) : ∀ op rest, e.queue.operations = op :: rest →
      op.content.kind = .pollCompletion → ∀ op' ∈ rest, issued < op'.id.val := by
  intro op rest hq hk
  cases hl with
  | nothing hq' => cases hq.symm.trans hq'
  | head op' rest' c hq' hk' _ _ _ ha =>
    obtain ⟨rfl, rfl⟩ := List.cons.inj (hq.symm.trans hq')
    rw [ha (hk'.symm.trans hk)]
    exact List.forall_mem_nil _

lemma joined_of_obeys (hs : e.Settled) (hq : e.queue.operations = op :: rest) (h : e.Obeys e' op rest false) :
    e.Joined s [] e' where
  settled := hs
  issued := h.issued
  later hf op'' rest'' hq'' hk := by
    obtain ⟨op', rest', hq', ha, -⟩ := h.queue
    obtain ⟨rfl, -⟩ := List.cons.inj (hq'.symm.trans hq'')
    exact absurd ⟨op, rest, hq, (hs.head hq).1, ha.kind.symm.trans hk⟩ hf
  inFlight _ _ := by
    obtain ⟨op', rest', hq', ha, -, hv⟩ := h.queue
    exact ⟨op, rest, op', rest', hq, hq', ha, hv⟩

lemma joined_of_launched {told : List EventSet} {carried : EventSet} {ds : List Deed} (hs : e.Settled)
    (hq : e.queue.operations = []) (hi : e.queue.issued ≤ e'.queue.issued) (hl : e'.Launched told carried ds) :
    e.Joined s [] e' :=
  ⟨hs, hi, fun _ => hl.later, fun hf => absurd hf (not_fenced hq)⟩

namespace Joined

lemma taken (h : e.Joined s between e') : e.Joined s between e'.takeEffects.2 :=
  ⟨h.settled, h.issued, h.later, h.inFlight⟩

lemma commit (h : e.Joined s between e') (id : OperationId) (what : Commit) :
    e.Joined s (between ++ [.commit id what]) e' := by
  have hb : (between ++ [Entry.commit id what]).any Entry.resets = between.any Entry.resets := by
    simp [Entry.resets]
  exact ⟨h.settled, h.issued, h.later, by rw [hb]; exact h.inFlight⟩

lemma command (h : e.Joined s between e') (hs : e'.Settled) (hq : e'.queue.operations = op :: rest) {c : Command}
    (ho : e'.Obeys (e'.step (.command c)) op rest c.resets) (hj : c ≠ .pollCompletion s) :
    e.Joined s (between ++ [.turn e' (.command c)]) (e'.step (.command c)) where
  settled := h.settled
  issued := Nat.le_trans h.issued ho.issued
  later hf op'' rest'' hq'' hk x'' hx'' := by
    obtain ⟨op', rest', hq', ha, -, hv⟩ := ho.queue
    obtain ⟨rfl, rfl⟩ := List.cons.inj (hq'.symm.trans hq'')
    rcases hv.old x'' hx'' with ⟨x, hx, hxa, -⟩ | hn
    · rw [hxa.id]
      exact h.later hf op rest hq (ha.kind.symm.trans hk) x hx
    · exact Nat.lt_of_le_of_lt h.issued hn
  inFlight hf hm := by
    have hm' := (subscribers_step hs hm).resolve_right hj
    obtain ⟨op₀, rest₀, op₁, rest₁, hq₀, hq₁, ha, hv⟩ := h.inFlight hf hm'
    obtain ⟨rfl, rfl⟩ := List.cons.inj (hq.symm.trans hq₁)
    obtain ⟨op', rest', hq', ha', -, hv'⟩ := ho.queue
    refine ⟨op₀, rest₀, op', rest', hq₀, hq', ha.trans ha', ?_⟩
    simpa [Entry.resets] using hv.trans hv' h.issued

lemma start (h : e.Joined s between e') (hs : e'.Settled) (hq : e'.queue.operations = []) {c : Command}
    {ds : List Deed} (hi : e'.queue.issued ≤ (e'.step (.command c)).queue.issued)
    (hl : (e'.step (.command c)).Launched [] .empty ds) (hj : c ≠ .pollCompletion s) :
    e.Joined s (between ++ [.turn e' (.command c)]) (e'.step (.command c)) where
  settled := h.settled
  issued := Nat.le_trans h.issued hi
  later _ := hl.later
  inFlight hf hm := by
    obtain ⟨_, _, _, _, -, hq', -⟩ := h.inFlight hf ((subscribers_step hs hm).resolve_right hj)
    cases hq.symm.trans hq'

lemma report (h : e.Joined s between e') {r : Report} {told : List EventSet} {carried : EventSet} {ds : List Deed}
    (hs : e'.Settled) (hq : e'.queue.operations = op :: rest) (hk : r.kind = op.content.kind)
    (hi : e'.queue.issued ≤ (e'.step (.report op.id r)).queue.issued)
    (hl : (e'.step (.report op.id r)).Launched told carried ds) :
    e.Joined s (between ++ [.turn e' (.report op.id r)]) (e'.step (.report op.id r)) where
  settled := h.settled
  issued := Nat.le_trans h.issued hi
  later _ := hl.later
  inFlight hf hm := by
    obtain ⟨hm', hn⟩ := subscribers_report hs hq hk hm
    obtain ⟨op₀, rest₀, op₁, rest₁, hq₀, hq₁, ha, -⟩ := h.inFlight hf hm'
    obtain ⟨op₂, rest₂, hq₂, -, hk₂⟩ := hf
    obtain ⟨rfl, -⟩ := List.cons.inj (hq.symm.trans hq₁)
    obtain ⟨rfl, -⟩ := List.cons.inj (hq₀.symm.trans hq₂)
    exact absurd (ha.kind.trans hk₂) hn

lemma cleared_iff (h : e.Joined s between e') (hq : e'.queue.operations = op :: rest)
    (hk : op.content.kind = .pollCompletion) (hm : s ∈ e'.subscribers) :
    (∀ x ∈ e.queue.operations, x.content.kind ≠ .pollCompletion →
        ∀ x' ∈ e'.queue.operations.tail, x'.id ≠ x.id) ↔
      (e.Fenced → ∀ x ∈ e.queue.operations.tail,
        between.any Entry.resets ∧ x.content.kind ≠ .replayPrecomputed) := by
  obtain ⟨hq₀, -⟩ | ⟨op₀, rest₀, hq₀, -, ho₀, -⟩ := h.settled
  · refine iff_of_true ?_ fun hf => absurd hf (not_fenced hq₀)
    rw [hq₀]
    exact List.forall_mem_nil _
  have hi : ∀ x ∈ op₀ :: rest₀, x.id.val ≤ e.queue.issued := ho₀.issued
  by_cases hf : e.Fenced
  · obtain ⟨op₁, rest₁, op', rest', hq₁, hq', -, hv⟩ := h.inFlight hf hm
    obtain ⟨rfl, rfl⟩ := List.cons.inj (hq₀.symm.trans hq₁)
    obtain ⟨rfl, rfl⟩ := List.cons.inj (hq.symm.trans hq')
    have hk₀ : op₀.content.kind = .pollCompletion := by
      obtain ⟨op₂, rest₂, hq₂, -, hk₂⟩ := hf
      obtain ⟨rfl, -⟩ := List.cons.inj (hq₀.symm.trans hq₂)
      exact hk₂
    have hn : ∀ x ∈ rest₀, x.content.kind ≠ .pollCompletion := by
      have h0 := ho₀.completions_behind hk₀
      simpa [kindCount, List.countP_eq_zero] using h0
    rw [hq₀, hq, List.tail_cons, List.tail_cons]
    constructor
    · intro hgone _ x hx
      by_contra hkeep
      obtain ⟨x', hx', ha⟩ := hv.still x hx fun hr => by_contra fun hp => hkeep ⟨hr, hp⟩
      exact hgone x (List.mem_cons_of_mem _ hx) (hn x hx) x' hx' ha.id
    · intro hcleared x hx hkx x' hx' he
      rcases hv.old x' hx' with ⟨y, hy, -, hr⟩ | hlt
      · obtain ⟨hr', hp⟩ := hcleared hf y hy
        exact hp (hr hr')
      · have := hi x hx
        rw [he] at hlt
        omega
  · refine iff_of_true (fun x hx _ x' hx' he => ?_) fun h => absurd h hf
    rw [hq, List.tail_cons] at hx'
    have hlt := h.later hf op rest hq hk x' hx'
    have := hi x (hq₀ ▸ hx)
    rw [he] at hlt
    omega

end Joined

end Engine

namespace Replica

def JoinedSince (history : List Entry) (e' : Engine) : Prop :=
  ∀ before e s between, history = before ++ .turn e (.command (.pollCompletion s)) :: between →
    (∀ x ∈ between, ¬x.Joins s) → e.Joined s between e'

variable {history : List Entry} {e₁ e₂ : Engine} {x : Entry}

lemma JoinedSince.concat (h : JoinedSince history e₁)
    (hn : ∀ (e : Engine) s, x = .turn e (.command (.pollCompletion s)) → e.Joined s [] e₂)
    (hs : ∀ (e : Engine) s between, e.Joined s between e₁ → ¬x.Joins s → e.Joined s (between ++ [x]) e₂) :
    JoinedSince (history ++ [x]) e₂ := by
  intro before e s between hh hj
  rcases concat_eq_append_cons hh with ⟨rfl, hx, -⟩ | ⟨between', rfl, hh'⟩
  · exact hn e s hx
  · rw [List.forall_mem_append, List.forall_mem_singleton] at hj
    exact hs e s between' (h before e s between' hh' hj.1) hj.2

lemma head_of_answers {r : Replica} {op : Operation} {rest : List Operation} {report : Report} {told : List EventSet}
    {carried : EventSet} {ds : List Deed} {s : SubscriberId} (hq : r.engine.queue.operations = op :: rest)
    (hl : (r.engine.step (.report op.id report)).Launched told carried ds)
    (hd : deeds (r.engine.step (.report op.id report)).effects = op.content.answers ++ told.map .tell ++ ds)
    (ha : r.engine.Answers (.report op.id report) s) :
    op.content.kind = .pollCompletion ∧ s ∈ r.engine.subscribers := by
  obtain ⟨ids, hm⟩ := ha
  replace hm := answer_of_mem hm
  rw [hd, List.mem_append, List.mem_append] at hm
  rcases hm with (hm | hm) | hm
  · obtain ⟨subscribers, hc, hs⟩ := mem_answers hm
    refine ⟨by rw [hc]; rfl, Engine.mem_subscribers.mpr ⟨(ids, subscribers), ?_, hs⟩⟩
    rw [OperationQueue.completion?_eq, hq, List.findSome?_cons, hc]
    rfl
  · simp at hm
  · cases hl with
    | nothing => cases hm
    | head => simp at hm

lemma joined_advance {r r' : Replica} (hs : r.Sound) (ha : r.Advance r') (h : JoinedSince r.history r.engine) :
    JoinedSince r'.history r'.engine := by
  cases ha with
  | still => exact h
  | interfered s => exact h
  | proceeded op rest x c hq hu hk =>
    cases (x.proceed c r.storage).commit with
    | none => simpa only [Option.map_none, Option.toList_none, List.append_nil] using h
    | some what =>
      simp only [Option.map_some, Option.toList_some]
      exact h.concat (fun _ _ hx => by cases hx) fun e s between hjo _ => hjo.commit op.id what
  | commanded op rest x c hq hu ho hd =>
    refine h.concat (fun e s hx => ?_) fun e s between hjo hj => ?_
    · cases hx
      exact (Engine.joined_of_obeys hs.settled hq ho).taken
    · refine (hjo.command hs.settled hq ho ?_).taken
      rintro rfl
      exact hj rfl
  | started c ds hq hu hi hl hd =>
    refine h.concat (fun e s hx => ?_) fun e s between hjo hj => ?_
    · cases hx
      exact (Engine.joined_of_launched hs.settled hq hi hl).taken
    · refine (hjo.start hs.settled hq hi hl ?_).taken
      rintro rfl
      exact hj rfl
  | reported op rest report ds hq hu hk hi hl hd =>
    exact h.concat (fun _ _ hx => by cases hx) fun e s between hjo _ =>
      (hjo.report hs.settled hq hk hi hl).taken

/-- Everything that was queued when `s` joined the completion poll is gone when `s` is answered, unless the
completion poll was in flight: then what had come behind it is still there, save for what a reset has dropped. -/
theorem cleared_of_answer {retryDelay : Nat} {storage : SharedStorage} {moves : List Move} {e e' : Engine}
    {s : SubscriberId} {i : Input} {before between after : List Entry}
    (h : ((new retryDelay storage).run moves).history =
      before ++ .turn e (.command (.pollCompletion s)) :: (between ++ .turn e' i :: after))
    (hj : ∀ x ∈ between, ¬x.Joins s) (ha : e'.Answers i s) :
    (∀ op ∈ e.queue.operations, op.content.kind ≠ .pollCompletion →
        ∀ op' ∈ e'.queue.operations.tail, op'.id ≠ op.id) ↔
      (e.Fenced → ∀ op ∈ e.queue.operations.tail,
        between.any Entry.resets ∧ op.content.kind ≠ .replayPrecomputed) := by
  rw [← List.cons_append, ← List.append_assoc] at h
  obtain ⟨r, r', hjo, ha', hb, hh⟩ := advance_of_entry (motive := fun r => JoinedSince r.history r.engine)
    (fun _ _ _ _ h => absurd h (by simp [new])) (fun _ _ => joined_advance) h
  obtain ⟨rfl, ⟨c, rfl, hd⟩ | ⟨op, rest, report, ds, rfl, hq, -, hl, hd⟩⟩ := ha'.turn_cases (hb ▸ hh)
  · obtain ⟨ids, hm⟩ := ha
    obtain ⟨id, t, hx⟩ := hd _ (answer_of_mem hm)
    cases hx
  · obtain ⟨hk, hm⟩ := head_of_answers hq hl hd ha
    exact (hjo before e s between hb hj).cleared_iff hq hk hm

def earlyJoin : List Move :=
  [.command (.addCustom 5), .command (.pollCompletion 1), .proceed 0 calm, .deliver 0, .proceed 0 calm, .deliver 0]

theorem cleared_of_earlyJoin : ∃ a e b e' i,
    ((new 2 sampleStorage).run earlyJoin).history =
        [a, .turn e (.command (.pollCompletion 1)), b, .turn e' i] ∧
      ¬b.Joins 1 ∧ e'.Answers i 1 ∧
      ((∀ op ∈ e.queue.operations, op.content.kind ≠ .pollCompletion →
          ∀ op' ∈ e'.queue.operations.tail, op'.id ≠ op.id) ↔
        (e.Fenced → ∀ op ∈ e.queue.operations.tail,
          [b].any Entry.resets ∧ op.content.kind ≠ .replayPrecomputed)) := by
  obtain ⟨a, e, b, e', i, h, hj, ha⟩ : ∃ a e b e' i,
      ((new 2 sampleStorage).run earlyJoin).history =
          [a] ++ .turn e (.command (.pollCompletion 1)) :: ([b] ++ .turn e' i :: []) ∧
        ¬b.Joins 1 ∧ e'.Answers i 1 :=
    ⟨_, _, _, _, _, rfl, id, [], .head _⟩
  exact ⟨a, e, b, e', i, h, hj, ha, cleared_of_answer h (List.forall_mem_singleton.mpr hj) ha⟩

def lateJoin : List Move :=
  [.command (.pollCompletion 1), .command (.addCustom 5), .command (.pollCompletion 2), .proceed 0 calm, .deliver 0]

theorem uncleared_of_lateJoin : ∃ a b e e' i,
    ((new 2 sampleStorage).run lateJoin).history =
        [a, b, .turn e (.command (.pollCompletion 2)), .turn e' i] ∧
      e'.Answers i 2 ∧
      ∃ op ∈ e.queue.operations, op.content.kind ≠ .pollCompletion ∧ op ∈ e'.queue.operations.tail :=
  ⟨_, _, _, _, _, rfl, ⟨[], .tail _ (.head _)⟩, ⟨⟨2⟩, .custom (some 5), false⟩, .tail _ (.head _), by decide,
    .head _⟩

end Replica

end AccountReplica
