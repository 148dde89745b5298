import AccountReplica.Proofs.Engine.Marks
import AccountReplica.Proofs.Replica.Chains
import AccountReplica.Proofs.Replica.Moves

/-! What callers see of a catch-up: the flag is up from the start of a difference poll to the end of its last round, and
the counter goes up when that round has brought the account up to date. -/

namespace AccountReplica

def Effect.flag? : Effect → Option Bool
  | publish (.updating value) => some value
  | _ => none

def Effect.count? : Effect → Option Nat
  | publish (.caughtUp times) => some times
  | _ => none

def Mark.flag? : Mark → Option Bool
  | updating value => some value
  | _ => none

def Mark.count? : Mark → Option Nat
  | caughtUp times => some times
  | _ => none

lemma filterMap_flag (xs : List Effect) : (marks xs).filterMap Mark.flag? = xs.filterMap Effect.flag? :=
  filterMap_marks (fun x => by
    cases x with
    | publish p => cases p <;> rfl
    | _ => rfl) xs

lemma filterMap_count (xs : List Effect) : (marks xs).filterMap Mark.count? = xs.filterMap Effect.count? :=
  filterMap_marks (fun x => by
    cases x with
    | publish p => cases p <;> rfl
    | _ => rfl) xs

namespace Report

lemma flag_marks (r : Report) (c : Content) (times : Nat) : (r.marks c times).filterMap Mark.flag? = [] := by
  cases r with
  | differencePolled outcome =>
    simp only [marks]
    split <;> rfl
  | precomputedReplayed result =>
    simp only [marks]
    cases c.waiter? <;> rfl
  | _ => rfl

lemma count_marks (r : Report) (c : Content) (times : Nat) :
    (r.marks c times).filterMap Mark.count? = if r.catchesUp then [times + 1] else [] := by
  cases r with
  | differencePolled outcome =>
    by_cases h : outcome.catchesUp <;> simp [marks, catchesUp, h, Mark.count?]
  | precomputedReplayed result =>
    simp only [marks]
    cases c.waiter? <;> rfl
  | _ => rfl

end Report

namespace Entry

def flags (x : Entry) : List Bool :=
  x.effects.filterMap Effect.flag?

def counts (x : Entry) : List Nat :=
  x.effects.filterMap Effect.count?

def catchesUp : Entry → Bool
  | turn _ i => i.catchesUp
  | commit .. => false

def StartsPoll (x : Entry) : Prop :=
  ∃ id events, .spawn id (.pollDifference events) ∈ x.effects

def EndsPoll (x : Entry) : Prop :=
  ∃ e id outcome, x = .turn e (.report id (.differencePolled outcome)) ∧ outcome.goesOn = false

end Entry

def flagAfter (history : List Entry) : Bool :=
  (history.flatMap Entry.flags).getLastD false

def countAfter (history : List Entry) : Nat :=
  (history.flatMap Entry.counts).getLastD 0

namespace OperationQueue

def AwaitsServer (q : OperationQueue) : Prop :=
  (∃ op ∈ q.operations, op.content.kind = .pollDifference) ∨
    ∃ op rest groups timeout, q.operations = op :: rest ∧ op.running = true ∧
      op.content = .collectGroups groups timeout ∧ timeout ≠ 0

lemma isUpdating_of_poll {q : OperationQueue} {op : Operation} (hm : op ∈ q.operations)
    (hk : op.content.kind = .pollDifference) : q.isUpdating = true := by
  rw [isUpdating, List.any_eq_true]
  refine ⟨op, hm, ?_⟩
  obtain ⟨id, c, running⟩ := op
  cases c <;> first | rfl | cases hk

lemma isUpdating_iff {q : OperationQueue} (h : ∀ op ∈ q.operations.tail, op.running = false) :
    q.isUpdating = true ↔ q.AwaitsServer := by
  constructor
  · intro hu
    obtain ⟨op, hm, hu⟩ := List.any_eq_true.mp hu
    split at hu
    · next ev hc => exact .inl ⟨op, hm, by rw [hc]; rfl⟩
    · next groups timeout hc =>
      obtain ⟨hr, ht⟩ := (Bool.and_eq_true _ _).mp hu
      cases hq : q.operations with
      | nil => cases hq ▸ hm
      | cons head rest =>
        rw [hq] at hm h
        rcases List.mem_cons.mp hm with rfl | hm
        · exact .inr ⟨op, rest, groups, timeout, hq, hr, hc, of_decide_eq_true ht⟩
        · exact absurd hr (by rw [h op hm]; rintro ⟨⟩)
    · cases hu
  · rintro (⟨op, hm, hk⟩ | ⟨op, rest, groups, timeout, hq, hr, hc, ht⟩)
    · exact isUpdating_of_poll hm hk
    · rw [isUpdating, hq, List.any_cons, hc]
      simp [hr, ht]

end OperationQueue

namespace Engine

variable {e e' : Engine} {op : Operation} {rest : List Operation} {i : Input}

lemma Settled.tail_idle (h : e.Settled) : ∀ op ∈ e.queue.operations.tail, op.running = false := by
  obtain ⟨hq, -⟩ | ⟨op, rest, hq, -, ho, -⟩ := h
  · rw [hq]
    exact List.forall_mem_nil _
  · rw [hq]
    exact fun op hm => (ho.waits op hm).1

lemma flags_turn (h : e.Settled) (he : e.effects = []) (hd : e.Due i) :
    (Entry.turn e i).flags = if (e.step i).updating = e.updating then [] else [(e.step i).updating] := by
  have hr : (e.marks i).filterMap Mark.flag? = [] := by
    cases hd with
    | command c => rfl
    | report op rest r hq hk =>
      rw [marks, front_cons hq]
      exact r.flag_marks op.content e.caughtUp
  rw [Entry.flags, Entry.effects, ← filterMap_flag, (markTurn_of_due h he hd).marks, List.filterMap_append, hr]
  split <;> rfl

lemma counts_turn (h : e.Settled) (he : e.effects = []) (hd : e.Due i) :
    (Entry.turn e i).counts = if i.catchesUp then [e.caughtUp + 1] else [] := by
  have hr : (e.marks i).filterMap Mark.count? = if i.catchesUp then [e.caughtUp + 1] else [] := by
    cases hd with
    | command c => rfl
    | report op rest r hq hk =>
      rw [marks, front_cons hq]
      exact r.count_marks op.content e.caughtUp
  have hu : (if (e.step i).updating = e.updating then [] else [Mark.updating (e.step i).updating]).filterMap
      Mark.count? = [] := by
    split <;> rfl
  rw [Entry.counts, Entry.effects, ← filterMap_count, (markTurn_of_due h he hd).marks, List.filterMap_append, hr, hu,
    List.append_nil]

lemma effects_step (e : Engine) (i : Input) : (e.receive i).effects <+: (e.step i).effects := by
  obtain ⟨told, xs, h⟩ := emits_step e i
  exact ⟨told.flatMap (e.receive i).telling ++ xs, by rw [h.effects, List.append_assoc]⟩

lemma unlaunched_receive (he : e.effects = []) (i : Input) (id : OperationId) (t : Task) :
    .spawn id t ∉ (e.receive i).effects := by
  obtain ⟨xs, hx, hm⟩ := mute_receive e i
  rw [hx, he, List.nil_append]
  exact fun h => (hm _ h).2 trivial

lemma uncounted_of_spawn (h : e.Settled) (he : e.effects = []) (hd : e.Due i) {pre post : List Effect}
    {id : OperationId} {t : Task} (hx : (e.step i).effects = pre ++ .spawn id t :: post) :
    post.filterMap Effect.count? = [] := by
  obtain ⟨later, hl⟩ := effects_step e i
  -- The counter is written while the input is taken, before anything is started.
  have hn : later.filterMap Effect.count? = [] := by
    have hm := (markTurn_of_due h he hd).marks
    have hr := (marked_receive h hd).marks
    rw [he] at hr
    rw [← hl, marks_append, hr] at hm
    rw [← filterMap_count, List.append_cancel_left hm]
    split <;> rfl
  have hs : ∃ between, later = between ++ .spawn id t :: post := by
    rcases List.append_eq_append_iff.mp (hl.trans hx) with ⟨between, -, hb⟩ | ⟨between, hb, hp⟩
    · exact ⟨between, hb⟩
    · cases between with
      | nil => exact ⟨[], hp.symm⟩
      | cons x between =>
        obtain ⟨rfl, -⟩ := List.cons.inj hp
        refine absurd ?_ (unlaunched_receive he i id t)
        rw [hb]
        exact List.mem_append_right _ List.mem_cons_self
  obtain ⟨between, rfl⟩ := hs
  exact List.filterMap_eq_nil_iff.mpr fun x hm =>
    List.filterMap_eq_nil_iff.mp hn x (List.mem_append_right _ (List.mem_cons_of_mem _ hm))

def PollsFirst (e : Engine) : Prop :=
  ∃ op rest, e.queue.operations = op :: rest ∧ op.content.kind = .pollDifference

lemma pollsFirst_of_launched {told : List EventSet} {carried : EventSet} {ds : List Deed} {id : OperationId}
    {events : EventSet} (h : e.Launched told carried ds) (hm : .launch id (some (.pollDifference events)) ∈ ds) :
    e.PollsFirst := by
  cases h with
  | nothing => cases hm
  | head op rest c hq hk =>
    obtain ⟨-, ht⟩ := Deed.launch.inj (List.mem_singleton.mp hm)
    refine ⟨op, rest, hq, hk.trans ?_⟩
    cases c with
    | pollDifference events' => rfl
    | custom work => cases work <;> cases ht
    | _ => cases ht

lemma pollsFirst_of_spawn (h : e.Settled) (he : e.effects = []) (hd : e.Due i) {id : OperationId} {events : EventSet}
    (hx : .spawn id (.pollDifference events) ∈ (e.step i).effects) : (e.step i).PollsFirst := by
  have hm : .launch id (some (.pollDifference events)) ∈ deeds (e.step i).effects :=
    List.mem_filterMap.mpr ⟨_, hx, rfl⟩
  cases hd with
  | command c =>
    cases hq : e.queue.operations with
    | nil =>
      obtain ⟨-, -, ds, hl, hds⟩ := turn_of_rest h hq c
      rw [hds, he] at hm
      exact pollsFirst_of_launched hl hm
    | cons op rest =>
      rw [(obeys_step h hq c).deeds, he] at hm
      cases hm
  | report op rest r hq hk =>
    obtain ⟨-, -, ds, hl, hds⟩ := turn_of_report h hq hk
    rw [hds, he, deeds_nil, List.nil_append] at hm
    rcases List.mem_append.mp hm with hm | hm
    · rcases List.mem_append.mp hm with hm | hm
      · cases hc : op.content with
        | pollCompletion ids subscribers => simp [hc, Content.answers] at hm
        | _ => simp [hc, Content.answers] at hm
      · simp at hm
    · exact pollsFirst_of_launched hl hm

lemma PollsFirst.step (hp : e.PollsFirst) (h : e.Settled) (hd : e.Due i) (hn : ¬(Entry.turn e i).EndsPoll) :
    (e.step i).PollsFirst := by
  obtain ⟨op, rest, hq, hk⟩ := hp
  cases hd with
  | command c =>
    obtain ⟨op', rest', hq', ha, -⟩ := (obeys_step h hq c).queue
    exact ⟨op', rest', hq', ha.kind.trans hk⟩
  | report op' rest' r hq' hk' =>
    obtain ⟨rfl, rfl⟩ := List.cons.inj (hq'.symm.trans hq)
    rw [hk] at hk'
    cases r with
    | differencePolled outcome =>
      cases hg : outcome.goesOn with
      | true => exact poll_goes_on h hq hk hg
      | false => exact absurd ⟨e, op'.id, outcome, rfl, hg⟩ hn
    | _ => cases hk'

lemma PollsFirst.isUpdating (hp : e.PollsFirst) : e.queue.isUpdating = true := by
  obtain ⟨op, rest, hq, hk⟩ := hp
  exact OperationQueue.isUpdating_of_poll (hq ▸ List.mem_cons_self) hk

lemma catchesUp_ends (h : i.catchesUp = true) : (Entry.turn e i).EndsPoll := by
  cases i with
  | command c => cases h
  | report id r =>
    cases r with
    | differencePolled outcome =>
      cases outcome with
      | applied events more => cases more <;> first | exact ⟨e, id, _, rfl, rfl⟩ | cases h
      | _ => cases h
    | _ => cases h

end Engine

namespace Replica

variable {r r' : Replica}

structure Shown (r : Replica) : Prop where
  flag : flagAfter r.history = r.engine.updating
  count : countAfter r.history = r.engine.caughtUp
  updating : r.engine.updating = r.engine.queue.isUpdating

lemma shown_advance (hs : r.Sound) (ha : r.Advance r') (h : r.Shown) : r'.Shown := by
  obtain ⟨i, underway, hd, rfl⟩ | ⟨he, hh⟩ := ha.turned_or
  · have hm := Engine.markTurn_of_due hs.settled hs.effects hd
    refine ⟨?_, ?_, hm.updating⟩
    · have hf := h.flag
      rw [flagAfter] at hf ⊢
      rw [flatMap_turned, Engine.flags_turn hs.settled hs.effects hd]
      split
      · next hu =>
        rw [List.append_nil, hf, ← hu]
        rfl
      · rw [List.getLastD_concat]
        rfl
    · have hc := h.count
      rw [countAfter] at hc ⊢
      have hstep : (r.turned i underway).engine.caughtUp = _ := hm.caughtUp
      rw [flatMap_turned, Engine.counts_turn hs.settled hs.effects hd, hstep]
      split
      · rw [List.getLastD_concat]
      · rw [List.append_nil, hc]
        rfl
  · refine ⟨?_, ?_, he ▸ h.updating⟩
    · rw [flagAfter, flatMap_still (fun _ _ => rfl) hh, he]
      exact h.flag
    · rw [countAfter, flatMap_still (fun _ _ => rfl) hh, he]
      exact h.count

lemma shown_of_run (retryDelay : Nat) (storage : SharedStorage) (moves : List Move) :
    ((new retryDelay storage).run moves).Shown :=
  run_induct ⟨rfl, rfl, rfl⟩ (fun _ _ => shown_advance) moves

/-- Since a round of a difference poll was started, no cell was written unless a last round has ended. -/
def Catching (r : Replica) : Prop :=
  ∀ before x between, r.history = before ++ x :: between → x.StartsPoll → (∀ y ∈ between, ¬y.EndsPoll) →
    r.engine.PollsFirst ∧ ∀ y ∈ between, y.flags = [] ∧ y.counts = []

lemma catching_turned (h : r.Catching) (hs : r.Sound) (hu : r.Shown) {i : Input} (hd : r.engine.Due i)
    (underway : List (OperationId × Errand)) : (r.turned i underway).Catching := by
  intro before x between hh hx hn
  rcases concat_eq_append_cons hh with ⟨rfl, rfl, -⟩ | ⟨between, rfl, hb⟩
  · obtain ⟨id, events, hm⟩ := hx
    exact ⟨Engine.pollsFirst_of_spawn hs.settled hs.effects hd hm, List.forall_mem_nil _⟩
  · obtain ⟨hearlier, hlast⟩ := List.forall_mem_append.mp hn
    obtain ⟨hp, hq⟩ := h before x between hb hx hearlier
    have hend := List.forall_mem_singleton.mp hlast
    have hp' := hp.step hs.settled hd hend
    refine ⟨hp', List.forall_mem_append.mpr ⟨hq, List.forall_mem_singleton.mpr ⟨?_, ?_⟩⟩⟩
    -- The flag is read off the queue, and the poll is in front there before and after.
    · have hup : (r.engine.step i).updating = r.engine.updating := by
        rw [(Engine.markTurn_of_due hs.settled hs.effects hd).updating, hp'.isUpdating, hu.updating, hp.isUpdating]
      rw [Engine.flags_turn hs.settled hs.effects hd, if_pos hup]
    · rw [Engine.counts_turn hs.settled hs.effects hd, if_neg fun hc => hend (Engine.catchesUp_ends hc)]

lemma catching_advance (hs : r.Sound) (ha : r.Advance r') (hu : r.Shown) (h : r.Catching) : r'.Catching := by
  obtain ⟨i, underway, hd, rfl⟩ | ⟨he, hh⟩ := ha.turned_or
  · exact catching_turned h hs hu hd underway
  · intro before x between hb hx hn
    rw [he]
    rcases hh with hh | ⟨id, what, hh⟩
    · exact h before x between (hh.symm.trans hb) hx hn
    · rcases concat_eq_append_cons (hh.symm.trans hb) with ⟨-, rfl, -⟩ | ⟨between, rfl, hb'⟩
      · obtain ⟨id, events, hm⟩ := hx
        cases hm
      · obtain ⟨hp, hq⟩ := h before x between hb' hx (List.forall_mem_append.mp hn).1
        exact ⟨hp, List.forall_mem_append.mpr ⟨hq, List.forall_mem_singleton.mpr ⟨rfl, rfl⟩⟩⟩

lemma catching_of_run (retryDelay : Nat) (storage : SharedStorage) (moves : List Move) :
    ((new retryDelay storage).run moves).Catching := by
  refine (run_induct (motive := fun r => r.Shown ∧ r.Catching) ⟨⟨rfl, rfl, rfl⟩, fun before x between h => ?_⟩
    (fun r r' hs ha h => ⟨shown_advance hs ha h.1, catching_advance hs ha h.1 h.2⟩) moves).2
  exact absurd h (by simp [new])

structure ShowsCatchUp (r : Replica) : Prop where
  flag : ∀ before e i after, r.history = before ++ .turn e i :: after →
    (flagAfter (before ++ [.turn e i]) = true ↔ (e.step i).queue.AwaitsServer)
  counted : ∀ before x after, r.history = before ++ x :: after →
    x.counts = if x.catchesUp then [countAfter before + 1] else []
  during : ∀ before x between after, r.history = before ++ x :: (between ++ after) → x.StartsPoll →
    (∀ y ∈ between, ¬y.EndsPoll) →
    (∀ value ∈ x.flags, value = true) ∧ flagAfter (before ++ [x]) = true ∧
      (∀ earlier id events later, x.effects = earlier ++ .spawn id (.pollDifference events) :: later →
        later.filterMap Effect.count? = []) ∧
      ∀ y ∈ between, y.flags = [] ∧ y.counts = []

lemma engine_of_turn {e : Engine} {i : Input} (ha : r.Advance r') (h : r'.history = r.history ++ [.turn e i]) :
    e = r.engine ∧ r'.engine.queue = (e.step i).queue := by
  obtain ⟨j, underway, -, rfl⟩ | ⟨-, hh | ⟨id, what, hh⟩⟩ := ha.turned_or
  · obtain ⟨rfl, rfl⟩ : r.engine = e ∧ j = i := by simpa [turned] using h
    exact ⟨rfl, rfl⟩
  · exact absurd (hh.symm.trans h) (by simp)
  · exact absurd (hh.symm.trans h) (by simp)

section

variable {retryDelay : Nat} {storage : SharedStorage} {moves : List Move} {before after : List Entry}

lemma flagAfter_turn {e : Engine} {i : Input}
    (h : ((new retryDelay storage).run moves).history = before ++ .turn e i :: after) :
    flagAfter (before ++ [.turn e i]) = true ↔ (e.step i).queue.AwaitsServer := by
  obtain ⟨moves₁, m, -, -, hb, hx⟩ := move_of_entry h
  have hs := sound_of_run retryDelay storage (moves₁ ++ [m])
  have hsh := shown_of_run retryDelay storage (moves₁ ++ [m])
  rw [run_concat] at hs hsh
  obtain ⟨-, hq⟩ := engine_of_turn (advance (sound_of_run retryDelay storage moves₁) m).1 (hb.symm ▸ hx)
  rw [← hx, hsh.flag, hsh.updating, OperationQueue.isUpdating_iff hs.settled.tail_idle, hq]

lemma counts_of_entry {x : Entry} (h : ((new retryDelay storage).run moves).history = before ++ x :: after) :
    x.counts = if x.catchesUp then [countAfter before + 1] else [] := by
  cases x with
  | commit id what => rfl
  | turn e i =>
    obtain ⟨hs, he, hd⟩ := due_of_turn (h ▸ List.mem_append_right _ List.mem_cons_self)
    obtain ⟨moves₁, m, -, -, hb, hx⟩ := move_of_entry h
    obtain ⟨hr, -⟩ := engine_of_turn (advance (sound_of_run retryDelay storage moves₁) m).1 (hb.symm ▸ hx)
    rw [Engine.counts_turn hs he hd, ← hb, (shown_of_run retryDelay storage moves₁).count, ← hr]
    rfl

lemma up_of_start {x : Entry} (h : ((new retryDelay storage).run moves).history = before ++ x :: after)
    (hx : x.StartsPoll) : (∀ value ∈ x.flags, value = true) ∧ flagAfter (before ++ [x]) = true ∧
      ∀ earlier id events later, x.effects = earlier ++ .spawn id (.pollDifference events) :: later →
        later.filterMap Effect.count? = [] := by
  cases x with
  | commit id what =>
    obtain ⟨id, events, hm⟩ := hx
    cases hm
  | turn e i =>
    obtain ⟨hs, he, hd⟩ := due_of_turn (h ▸ List.mem_append_right _ List.mem_cons_self)
    obtain ⟨id, events, hm⟩ := hx
    have hp := Engine.pollsFirst_of_spawn hs he hd hm
    refine ⟨?_, ?_, fun earlier id events later => Engine.uncounted_of_spawn hs he hd⟩
    · rw [Engine.flags_turn hs he hd, (Engine.markTurn_of_due hs he hd).updating, hp.isUpdating]
      split <;> simp
    · obtain ⟨op, rest, hq, hk⟩ := hp
      exact (flagAfter_turn h).mpr (.inl ⟨op, hq ▸ List.mem_cons_self, hk⟩)

end

theorem showsCatchUp_of_run (retryDelay : Nat) (storage : SharedStorage) (moves : List Move) :
    ((new retryDelay storage).run moves).ShowsCatchUp where
  flag _ _ _ _ := flagAfter_turn
  counted _ _ _ := counts_of_entry
  during before x between after h hx hn := by
    obtain ⟨hf, ha, hc⟩ := up_of_start h hx
    have hpre : ((new retryDelay storage).run moves).history = (before ++ x :: between) ++ after := by simpa using h
    obtain ⟨moves₁, hb⟩ := run_of_prefix hpre
    exact ⟨hf, ha, hc, (catching_of_run retryDelay storage moves₁ before x between hb hx hn).2⟩

example : ((new 2 sampleStorage).run slices).history.flatMap Entry.flags = [true, false] ∧
    ((new 2 sampleStorage).run slices).history.flatMap Entry.counts = [1] :=
  ⟨rfl, rfl⟩

end Replica

end AccountReplica
