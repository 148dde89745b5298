import AccountReplica.Proofs.Replay.Sifting

/-! A replay does not depend on the order in which the groups of its batch have come, ties apart. -/

namespace AccountReplica

namespace UpdateGroup

/-- Are the groups next to each other on one counter, so that the one that came first is walked first? Dated groups have
no counter and are applied as they came. -/
def ties : UpdateGroup → UpdateGroup → Bool
  | common g, common h => g.start = h.start
  | secret g, secret h => g.qts = h.qts
  | numbered g, numbered h => g.first = h.first
  | dated _, dated _ => true
  | _, _ => false

structure TiesBy {γ : Type} (f : UpdateGroup → Option γ) (key : γ → Int) : Prop where
  ties_iff : ∀ {g x}, f g = some x → ∀ h, g.ties h = true ↔ ∃ y, f h = some y ∧ key y = key x

lemma tiesBy_common : TiesBy common? CommonGroup.start where
  ties_iff {g x} hg h := by
    cases g <;> cases hg
    cases h <;> simp [ties, common?, eq_comm]

lemma tiesBy_secret : TiesBy secret? (·.qts.toInt) where
  ties_iff {g x} hg h := by
    cases g <;> cases hg
    cases h <;> simp [ties, secret?, Int32.toInt_inj, eq_comm]

lemma tiesBy_numbered : TiesBy numbered? (·.first.toInt) where
  ties_iff {g x} hg h := by
    cases g <;> cases hg
    cases h <;> simp [ties, numbered?, Int32.toInt_inj, eq_comm]

lemma tiesBy_dated : TiesBy dated? fun _ => 0 where
  ties_iff {g x} hg h := by
    cases g <;> cases hg
    cases h <;> simp [ties, dated?]

namespace TiesBy

variable {γ : Type} {f : UpdateGroup → Option γ} {key : γ → Int} {as bs : List UpdateGroup}

lemma filterMap_ties (hf : TiesBy f key) {g : UpdateGroup} {x : γ} (hg : f g = some x) (gs : List UpdateGroup) :
    (gs.filter g.ties).filterMap f = (gs.filterMap f).filter (key · = key x) := by
  induction gs with
  | nil => rfl
  | cons h gs ih =>
    have ht := hf.ties_iff hg h
    cases hh : f h with
    | none =>
      have hn : ¬g.ties h = true := by simp [ht, hh]
      rw [List.filter_cons_of_neg hn, List.filterMap_cons_none hh, ih]
    | some y =>
      rw [List.filterMap_cons_some hh]
      by_cases hk : key y = key x
      · rw [List.filter_cons_of_pos (ht.mpr ⟨y, hh, hk⟩), List.filterMap_cons_some hh, ih,
          List.filter_cons_of_pos (by simpa using hk)]
      · have hn : ¬g.ties h = true := by simp [ht, hh, hk]
        rw [List.filter_cons_of_neg hn, ih, List.filter_cons_of_neg (by simpa using hk)]

lemma filter_eq (hf : TiesBy f key) (hp : as.Perm bs) (ht : ∀ g ∈ as, as.filter g.ties = bs.filter g.ties) (k : Int) :
    (as.filterMap f).filter (key · = k) = (bs.filterMap f).filter (key · = k) := by
  by_cases hk : ∃ g ∈ as, ∃ x, f g = some x ∧ key x = k
  · obtain ⟨g, hg, x, hx, rfl⟩ := hk
    rw [← hf.filterMap_ties hx, ← hf.filterMap_ties hx, ht g hg]
  · have hn {gs : List UpdateGroup} (hm : ∀ g ∈ gs, g ∈ as) : (gs.filterMap f).filter (key · = k) = [] := by
      refine List.filter_eq_nil_iff.mpr fun x hx => ?_
      obtain ⟨g, hg, hgx⟩ := List.mem_filterMap.mp hx
      intro hkx
      exact hk ⟨g, hm g hg, x, hgx, of_decide_eq_true hkx⟩
    rw [hn fun _ hg => hg, hn fun _ hg => hp.mem_iff.mpr hg]

lemma sort_eq (hf : TiesBy f key) (hp : as.Perm bs) (ht : ∀ g ∈ as, as.filter g.ties = bs.filter g.ties) :
    StableSort.sort key (as.filterMap f) = StableSort.sort key (bs.filterMap f) :=
  (StableSort.stableOrder_sort _ _).unique (StableSort.stableOrder_sort _ _) (hf.filter_eq hp ht)

end TiesBy

end UpdateGroup

variable {as bs : List UpdateGroup}

lemma Batch.ofGroups_congr (hp : as.Perm bs) (ht : ∀ g ∈ as, as.filter g.ties = bs.filter g.ties) :
    ofGroups as = ofGroups bs := by
  have hall (gs : List DatedGroup) : gs.filter (fun _ => decide ((0 : Int) = 0)) = gs :=
    List.filter_eq_self.mpr fun _ _ => rfl
  have hd := UpdateGroup.tiesBy_dated.filter_eq hp ht 0
  rw [hall, hall] at hd
  have hl : as.contains .tooLong = bs.contains .tooLong := by simp [hp.mem_iff]
  simp only [ofGroups, UpdateGroup.tiesBy_common.sort_eq hp ht, UpdateGroup.tiesBy_secret.sort_eq hp ht,
    UpdateGroup.tiesBy_numbered.sort_eq hp ht, hd, hl]

/-- On every transaction the two batches do the same: the result, what is written, and the error or overflow. -/
theorem replayGroups_of_ties (hp : as.Perm bs) (ht : ∀ g ∈ as, as.filter g.ties = bs.filter g.ties)
    (s : SequenceState) : replayGroups s as = replayGroups s bs := by
  funext t
  simp only [replayGroups, Batch.ofGroups_congr hp ht]

def tiedBatch : List UpdateGroup :=
  [.common ⟨[.contact ⟨1⟩ true], 11, 1⟩, .numbered ⟨[.contact ⟨1⟩ false], 0, 2, 61⟩, .common ⟨[], 12, 2⟩, .tooLong,
    .secret ⟨[.newSecretMessage Storage.sampleSent 1], 1⟩, .dated ⟨[.contact ⟨2⟩ true], 62⟩, .common ⟨[], 14, 3⟩,
    .numbered ⟨[.contact ⟨1⟩ true], 0, 3, 63⟩, .dated ⟨[.contact ⟨2⟩ false], 61⟩]

def shuffledBatch : List UpdateGroup :=
  [.common ⟨[], 14, 3⟩, .dated ⟨[.contact ⟨2⟩ true], 62⟩, .numbered ⟨[.contact ⟨1⟩ false], 0, 2, 61⟩,
    .common ⟨[.contact ⟨1⟩ true], 11, 1⟩, .dated ⟨[.contact ⟨2⟩ false], 61⟩, .tooLong,
    .numbered ⟨[.contact ⟨1⟩ true], 0, 3, 63⟩, .common ⟨[], 12, 2⟩,
    .secret ⟨[.newSecretMessage Storage.sampleSent 1], 1⟩]

theorem replayGroups_shuffledBatch : tiedBatch.Perm shuffledBatch ∧
    (∀ g ∈ tiedBatch, tiedBatch.filter g.ties = shuffledBatch.filter g.ties) ∧
      replayGroups ⟨10, 0, 60, 1⟩ tiedBatch = replayGroups ⟨10, 0, 60, 1⟩ shuffledBatch := by
  have hp : tiedBatch.Perm shuffledBatch := by decide
  have ht : ∀ g ∈ tiedBatch, tiedBatch.filter g.ties = shuffledBatch.filter g.ties := by decide
  exact ⟨hp, ht, replayGroups_of_ties hp ht _⟩

end AccountReplica
