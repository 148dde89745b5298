import AccountReplica.Proofs.Replay.Sifting

/-! When the numbers of a batch run over 32 bits, and that a replay that breaks off there leaves the storage alone. -/

namespace AccountReplica

namespace Track

variable {γ : Type} {t : Track γ} {o : Overflow} {s : SequenceState} {gs : List γ}

inductive Overruns (t : Track γ) (o : Overflow) : SequenceState → List γ → Prop
  | here {s : SequenceState} {g : γ} {gs : List γ} (hc : t.continues s g = .error o) : Overruns t o s (g :: gs)
  | apply {s : SequenceState} {g : γ} {gs : List γ} (hc : t.continues s g = .ok true)
      (h : Overruns t o (t.advance s g) gs) : Overruns t o s (g :: gs)
  | skip {s : SequenceState} {g : γ} {gs : List γ} (hc : t.continues s g = .ok false) (hv : t.covered s g = true)
      (h : Overruns t o s gs) : Overruns t o s (g :: gs)

lemma judges_or_overruns (t : Track γ) (s : SequenceState) (gs : List γ) :
    (∃ v, t.Judges s gs v) ∨ ∃ o, t.Overruns o s gs := by
  induction gs generalizing s with
  | nil => exact Or.inl ⟨_, .done s⟩
  | cons g gs ih =>
    cases hc : t.continues s g with
    | error o => exact Or.inr ⟨o, .here hc⟩
    | ok b =>
      cases b with
      | true =>
        rcases ih (t.advance s g) with ⟨v, h⟩ | ⟨o, h⟩
        · exact Or.inl ⟨_, .apply hc h⟩
        · exact Or.inr ⟨o, .apply hc h⟩
      | false =>
        cases hv : t.covered s g with
        | true =>
          rcases ih s with ⟨v, h⟩ | ⟨o, h⟩
          · exact Or.inl ⟨_, .skip hc hv h⟩
          · exact Or.inr ⟨o, .skip hc hv h⟩
        | false => exact Or.inl ⟨_, .hold hc hv⟩

lemma walk_of_overruns (h : t.Overruns o s gs) {p : Progress} (hp : p.txn.refusal = none) :
    t.walk gs s p = .error (.overflow o) := by
  induction h generalizing p with
  | here hc => simp only [walk, hc]
  | @apply s g gs hc _ ih =>
    obtain ⟨p', hu, hf⟩ := Progress.updates_free hp (t.updates g)
    have hw := ih (p := { p' with events := t.tell g p'.events }) hf
    have hg : t.applyGroup g p = .ok { p' with events := t.tell g p'.events } := bind_of_ok hu rfl
    simp only [walk, hc]
    exact bind_of_ok hg (bind_of_error hw)
  | skip hc hv _ ih =>
    simp only [walk, hc, hv, if_true]
    exact bind_of_error (ih hp)

end Track

namespace Gauge

variable {γ : Type} {G : Gauge γ}

inductive Leads (G : Gauge γ) : Int → List γ → Int → Prop
  | done (c : Int) : Leads G c [] c
  | apply {c c' : Int} {g : γ} {gs : List γ} (hs : G.starts c g) (h : Leads G (G.moves c g) gs c') :
      Leads G c (g :: gs) c'
  | skip {c c' : Int} {g : γ} {gs : List γ} (hs : ¬G.starts c g) (he : G.ends g ≤ c) (h : Leads G c gs c') :
      Leads G c (g :: gs) c'

def Meets (G : Gauge γ) (P : Int → γ → Prop) (c : Int) (gs : List γ) : Prop :=
  ∃ before g after c', gs = before ++ g :: after ∧ G.Leads c before c' ∧ P c' g

variable {t : Track γ} {counter : SequenceState → Int} {P : Int → γ → Prop} {s : SequenceState} {gs : List γ}

lemma Measures.meets (h : G.Measures t counter) (hk : ∀ s g, (∃ o, t.continues s g = .error o) ↔ P (counter s) g)
    {o : Overflow} (ho : t.Overruns o s gs) : G.Meets P (counter s) gs := by
  induction ho with
  | @here s g gs hc => exact ⟨[], g, gs, _, rfl, .done _, (hk s g).mp ⟨o, hc⟩⟩
  | @apply s g gs hc _ ih =>
    obtain ⟨before, g', after, c, rfl, hl, hg⟩ := ih
    rw [h.advance] at hl
    exact ⟨g :: before, g', after, c, rfl, .apply ((h.continues_iff hc).mp rfl) hl, hg⟩
  | @skip s g gs hc hv _ ih =>
    obtain ⟨before, g', after, c, rfl, hl, hg⟩ := ih
    have hs : ¬G.starts (counter s) g := fun hs => Bool.false_ne_true ((h.continues_iff hc).mpr hs)
    exact ⟨g :: before, g', after, c, rfl, .skip hs ((h.covered_iff s g).mp hv) hl, hg⟩

lemma Measures.overruns (h : G.Measures t counter) (hk : ∀ s g, (∃ o, t.continues s g = .error o) ↔ P (counter s) g)
    (hm : G.Meets P (counter s) gs) : ∃ o, t.Overruns o s gs := by
  obtain ⟨before, g, after, c, rfl, hl, hg⟩ := hm
  induction before generalizing s with
  | nil =>
    cases hl
    obtain ⟨o, ho⟩ := (hk s g).mpr hg
    exact ⟨o, .here ho⟩
  | cons b before ih =>
    cases hc : t.continues s b with
    | error o => exact ⟨o, .here hc⟩
    | ok x =>
      have hx := h.continues_iff hc
      cases hl with
      | apply hs hl =>
        obtain rfl := hx.mpr hs
        rw [← h.advance] at hl
        obtain ⟨o, ho⟩ := ih hl
        exact ⟨o, .apply hc ho⟩
      | skip hs he hl =>
        obtain rfl : x = false := by simpa using mt hx.mp hs
        obtain ⟨o, ho⟩ := ih hl
        exact ⟨o, .skip hc ((h.covered_iff s b).mpr he) ho⟩

lemma Measures.overruns_iff (h : G.Measures t counter)
    (hk : ∀ s g, (∃ o, t.continues s g = .error o) ↔ P (counter s) g) (s : SequenceState) (gs : List γ) :
    (∃ o, t.Overruns o s gs) ↔ G.Meets P (counter s) gs :=
  ⟨fun ⟨_, ho⟩ => h.meets hk ho, h.overruns hk⟩

end Gauge

lemma Counter.check_fails_iff {o : Overflow} {n : Int} {f : Int → Bool} :
    (∃ o', (check o n).map f = .error o') ↔ ¬Fits n := by
  unfold check
  split
  · next h => simp [h, Except.map]
  · next h => simp [h, Except.map]

lemma not_overruns_common (o : Overflow) (s : SequenceState) (gs : List CommonGroup) :
    ¬Track.common.Overruns o s gs := by
  intro h
  induction h with
  | here hc => cases hc
  | apply _ _ ih | skip _ _ _ ih => exact ih

lemma overruns_secret_iff {s : SequenceState} {gs : List SecretGroup}
    (hs : gs.Pairwise fun g g' => g.qts.toInt ≤ g'.qts.toInt) :
    (∃ o, Track.secret.Overruns o s gs) ↔ ∃ g ∈ gs, g.qts = Int32.minValue := by
  have hk (s : SequenceState) (g : SecretGroup) :
      (∃ o, Track.secret.continues s g = .error o) ↔ g.qts = Int32.minValue := by
    refine Counter.check_fails_iff.trans ?_
    have hf := Counter.fits_toInt g.qts
    rw [← Int32.toInt_inj, Int32.toInt_minValue]
    simp only [Counter.Fits] at hf ⊢
    omega
  rw [Gauge.measures_secret.overruns_iff (P := fun _ g => g.qts = Int32.minValue) hk]
  constructor
  · rintro ⟨before, g, after, c, rfl, -, hg⟩
    exact ⟨g, by simp, hg⟩
  · rintro ⟨g, hm, hg⟩
    -- The lowest number stands in front, where nothing has made a gap yet.
    cases gs with
    | nil => cases hm
    | cons g' gs =>
      refine ⟨[], g', gs, _, rfl, .done _, ?_⟩
      rcases List.mem_cons.mp hm with rfl | hm
      · exact hg
      · have hle := List.rel_of_pairwise_cons hs hm
        have hf := Counter.fits_toInt g'.qts
        rw [hg, Int32.toInt_minValue] at hle
        rw [← Int32.toInt_inj, Int32.toInt_minValue]
        simp only [Counter.Fits] at hf
        omega

lemma overruns_numbered_iff (s : SequenceState) (gs : List NumberedGroup) :
    (∃ o, Track.numbered.Overruns o s gs) ↔
      Gauge.numbered.Meets (fun c g => c = Int32.maxValue.toInt ∧ g.first ≠ 0) s.seq.toInt gs := by
  refine Gauge.measures_numbered.overruns_iff (fun s g => ?_) s gs
  by_cases h0 : g.first = 0
  · simp [Track.numbered, h0]
  · simp only [Track.numbered, if_neg h0]
    refine Counter.check_fails_iff.trans ?_
    have hf := Counter.fits_toInt s.seq
    rw [Int32.toInt_maxValue]
    simp only [Counter.Fits, ne_eq, h0, not_false_eq_true, and_true] at hf ⊢
    omega

/-- A start of a common group or the number before a secret one is out of range, or before any gap a numbered group is
to continue the highest number there is. -/
inductive Overflows (s : SequenceState) (gs : List UpdateGroup) : Prop
  | common {g : CommonGroup} (hg : .common g ∈ gs) (h : ¬Counter.Fits (g.pts.toInt - g.count.toInt))
  | secret {g : SecretGroup} (hg : .secret g ∈ gs) (h : g.qts = Int32.minValue)
  | numbered {line : List NumberedGroup}
      (hl : StableOrder Gauge.numbered.key (gs.filterMap UpdateGroup.numbered?) line)
      (h : Gauge.numbered.Meets (fun c g => c = Int32.maxValue.toInt ∧ g.first ≠ 0) s.seq.toInt line)

namespace Batch

variable {s : SequenceState} {t : Transaction} {gs : List UpdateGroup}

lemma sorted_secret (gs : List UpdateGroup) :
    (ofGroups gs).secret.Pairwise fun g g' => g.qts.toInt ≤ g'.qts.toInt :=
  StableSort.sorted_sort _ _

lemma judges_common (s : SequenceState) (gs : List CommonGroup) : ∃ v, Track.common.Judges s gs v :=
  (Track.judges_or_overruns _ s gs).resolve_right fun ⟨o, ho⟩ => not_overruns_common o s gs ho

lemma replay_of_overflows (ht : t.refusal = none) (h : Overflows s gs) :
    ∃ o, (ofGroups gs).replay s t = .error (.overflow o) := by
  simp only [replay]
  split
  · next hf =>
    have hf : ∀ g ∈ (ofGroups gs).common, Counter.Fits g.start := by simpa using hf
    obtain ⟨vc, jc⟩ := judges_common s (ofGroups gs).common
    obtain ⟨pc, hc, fc⟩ := Track.common.applyGroups_free vc.applied (p := ⟨t, .empty⟩) ht
    have wc := Track.walk_of_judges jc hc
    let sc := vc.applied.foldl Track.common.advance s
    by_cases hs : ∃ o, Track.secret.Overruns o sc (ofGroups gs).secret
    · obtain ⟨o, ho⟩ := hs
      exact ⟨o, bind_of_ok wc <| bind_of_error (Track.walk_of_overruns ho fc)⟩
    · obtain ⟨vs, js⟩ := (Track.judges_or_overruns _ sc (ofGroups gs).secret).resolve_right hs
      obtain ⟨ps, hps, fs⟩ := Track.secret.applyGroups_free vs.applied fc
      have ws := Track.walk_of_judges js hps
      let ss := vs.applied.foldl Track.secret.advance sc
      have hseq : ss.seq = s.seq := (Track.seq_secret _ sc).trans (Track.seq_common _ s)
      cases h with
      | common hg hn => exact absurd (hf _ (mem_common.mpr hg)) hn
      | secret hg hm => exact absurd ((overruns_secret_iff (sorted_secret gs)).mpr ⟨_, mem_secret.mpr hg, hm⟩) hs
      | numbered hl hm =>
        obtain rfl := hl.unique (StableSort.stableOrder_sort _ _) fun _ => rfl
        rw [← hseq] at hm
        obtain ⟨o, ho⟩ := (overruns_numbered_iff ss _).mpr hm
        exact ⟨o, bind_of_ok wc <| bind_of_ok ws <| bind_of_error (Track.walk_of_overruns ho fs)⟩
  · exact ⟨_, rfl⟩

lemma overflows_of_replay (ht : t.refusal = none) {o : Overflow}
    (h : (ofGroups gs).replay s t = .error (.overflow o)) : Overflows s gs := by
  by_contra hn
  have hf : ∀ g ∈ (ofGroups gs).common, Counter.Fits g.start := by
    intro g hg
    by_contra hx
    exact hn (.common (mem_common.mp hg) hx)
  obtain ⟨vc, jc⟩ := judges_common s (ofGroups gs).common
  obtain ⟨vs, js⟩ := (Track.judges_or_overruns _ s (ofGroups gs).secret).resolve_right fun ho => by
    obtain ⟨g, hg, hm⟩ := (overruns_secret_iff (sorted_secret gs)).mp ho
    exact hn (.secret (mem_secret.mp hg) hm)
  obtain ⟨vn, jn⟩ := (Track.judges_or_overruns _ s (ofGroups gs).numbered).resolve_right fun ho =>
    hn (.numbered (StableSort.stableOrder_sort _ _) ((overruns_numbered_iff s _).mp ho))
  have hj : (ofGroups gs).Judges s ⟨.empty, (ofGroups gs).tooLong, vc, vs, vn, (ofGroups gs).dated⟩ :=
    ⟨hf, jc, js, jn, rfl, rfl⟩
  obtain ⟨events, t', hr⟩ := replay_of_judges hj ht
  cases h.symm.trans hr

end Batch

lemma overflow_iff {a : Account} {s : SequenceState} {gs : List UpdateGroup} :
    (∃ o, replayGroups s gs (.start a) = .error (.overflow o)) ↔ a.state = some s ∧ Overflows s gs := by
  by_cases ha : a.state = some s
  · have hr : replayGroups s gs (.start a) = (Batch.ofGroups gs).replay s (.start a) := if_pos ha
    rw [hr]
    exact ⟨fun ⟨_, ho⟩ => ⟨ha, Batch.overflows_of_replay rfl ho⟩, fun h => Batch.replay_of_overflows rfl h.2⟩
  · have hr : replayGroups s gs (.start a) = .error (.error (.stateMismatch s a.state)) := if_neg ha
    rw [hr]
    constructor
    · rintro ⟨o, ho⟩
      cases ho
    · exact fun h => absurd h.1 ha

lemma Storage.transaction_overflow_iff {α : Type} {body : Transaction.Body α} {x y : Storage} {o : Overflow} :
    x.transaction body = (.error (.overflow o), y) ↔
      x.refusals = 0 ∧ body (.start x.account) = .error (.overflow o) ∧ y = x := by
  simp only [transaction, attempt]
  split
  · next n hn => simp [hn]
  · next hn =>
    split
    · next e he => simp [hn, he, eq_comm]
    · next a t ha => simp [ha]

/-- Exactly these batches overflow on the state that they were prepared for, and none does on another one; and a storage
whose transaction overflows is left as it was. -/
theorem overflows_of_batch (s : SequenceState) (gs : List UpdateGroup) :
    (∀ a : Account, (∃ o, replayGroups s gs (.start a) = .error (.overflow o)) ↔ a.state = some s ∧ Overflows s gs) ∧
      ∀ (x y : Storage) (o : Overflow), x.transaction (replayGroups s gs) = (.error (.overflow o), y) ↔
        x.refusals = 0 ∧ replayGroups s gs (.start x.account) = .error (.overflow o) ∧ y = x :=
  ⟨fun _ => overflow_iff, fun _ _ _ => Storage.transaction_overflow_iff⟩

example : replayGroups ⟨10, 0, 60, 1⟩ [.numbered ⟨[], 7, 8, 61⟩, .numbered ⟨[.contact ⟨1⟩ true], 0, 0x7fffffff, 62⟩]
    (.start sampleAccount) = .error (.overflow .sum) := by
  rfl

end AccountReplica
