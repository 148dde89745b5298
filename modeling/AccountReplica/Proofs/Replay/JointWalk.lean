import AccountReplica.Proofs.Replay.Lines

/-! Two batches whose groups are walked as one, in the order of their starts. -/

namespace AccountReplica

namespace Track

variable {γ : Type}

def Skips (t : Track γ) (s : SequenceState) (g : γ) : Prop :=
  t.continues s g = .ok false ∧ t.covered s g = true

namespace Line

variable {t : Track γ} (l : Line t)

/-- Where the counter stands behind those groups that start no later than `x`. -/
def place (s : SequenceState) (applied : List γ) (x : γ) : SequenceState :=
  (applied.filter fun g => l.first g ≤ l.first x).foldl t.advance s

/-- The order of their starts changes no verdict on two batches that come one after the other. -/
structure Apart (s : SequenceState) (va vb : Verdicts γ) : Prop where
  /-- A group of the first batch that was skipped is skipped where its turn comes now, -/
  early : ∀ a ∈ va.skipped,
    t.Skips ((vb.applied.filter fun b => l.first b < l.first a).foldl t.advance (l.place s va.applied a)) a
  late : ∀ b ∈ vb.skipped, t.Skips (l.place (l.place s va.applied b) vb.applied b) b
  /-- Of two applied groups that change places one is unchecked and does not move the counter. -/
  swapped : ∀ a ∈ va.applied, ∀ b ∈ vb.applied, l.first b < l.first a →
    ∃ g ∈ [a, b], l.unchecked g ∧ l.past g ≤ l.next (l.place s va.applied b)

instance (l : Line t) (s : SequenceState) (va vb : Verdicts γ) : Decidable (l.Apart s va vb) :=
  haveI (s : SequenceState) (g : γ) : Decidable (t.Skips s g) := inferInstanceAs (Decidable (_ ∧ _))
  decidable_of_iff
    ((∀ a ∈ va.skipped,
        t.Skips ((vb.applied.filter fun b => l.first b < l.first a).foldl t.advance (l.place s va.applied a)) a) ∧
      (∀ b ∈ vb.skipped, t.Skips (l.place (l.place s va.applied b) vb.applied b) b) ∧
      ∀ a ∈ va.applied, ∀ b ∈ vb.applied, l.first b < l.first a →
        ∃ g ∈ [a, b], l.unchecked g ∧ l.past g ≤ l.next (l.place s va.applied b))
    ⟨fun ⟨he, hl, hs⟩ => ⟨he, hl, hs⟩, fun h => ⟨h.early, h.late, h.swapped⟩⟩

abbrev merge (as bs : List γ) : List γ :=
  as.merge bs fun a b => l.first a ≤ l.first b

variable {l} {s s' : SequenceState} {a b x : γ} {as bs xs ys : List γ} {v va vb : Verdicts γ}

lemma filter_append_self {p : γ → Bool} (hx : ∀ x ∈ xs, p x = true) (ha : ∀ a ∈ as, p a = false) :
    (xs ++ as).filter p = xs := by
  rw [List.filter_append, List.filter_eq_self.mpr hx, List.append_right_eq_self, List.filter_eq_nil_iff]
  exact fun a hm => by simp [ha a hm]

lemma place_cons (h : l.first a ≤ l.first x) : l.place s (a :: as) x = l.place (t.advance s a) as x := by
  rw [place, List.filter_cons_of_pos (by simpa using h)]
  rfl

lemma place_append (hx : ∀ x ∈ xs, l.first x ≤ l.first a) (ha : ∀ a' ∈ as, l.first a < l.first a') :
    l.place s (xs ++ as) a = xs.foldl t.advance s := by
  have hp : ∀ a' ∈ as, ¬l.first a' ≤ l.first a := fun a' hm => Int.not_le.mpr (ha a' hm)
  rw [place, filter_append_self (fun x hm => decide_eq_true (hx x hm)) fun a' hm => decide_eq_false (hp a' hm)]

lemma applied_sublist (h : t.Judges s as v) : v.applied.Sublist as := by
  induction h with
  | done => exact .slnil
  | apply hc h ih => exact ih.cons_cons _
  | skip hc hv h ih => exact ih.cons _
  | hold => exact List.nil_sublist _

lemma mem_of_applied (h : t.Judges s as v) (hm : a ∈ v.applied) : a ∈ as :=
  (applied_sublist h).subset hm

lemma lt_of_skips (hs : (a :: as).Pairwise fun a b => l.first a ≤ l.first b) (hc : t.continues s a = .ok false)
    (h : t.Judges s as v) : ∀ a' ∈ v.applied, l.first a < l.first a' := by
  induction h with
  | done | hold => exact List.forall_mem_nil _
  | @apply s g gs v hg h ih =>
    have hle : ∀ g' ∈ g :: gs, l.first a ≤ l.first g' := fun g' hm => List.rel_of_pairwise_cons hs hm
    have hlt : l.first a < l.first g := by
      refine Int.lt_iff_le_and_ne.mpr ⟨hle g List.mem_cons_self, fun he => ?_⟩
      have hn := (l.continues_iff hc).not.mp Bool.false_ne_true
      rcases (l.continues_iff hg).mp rfl with hu | hf
      · exact hn (.inl ((l.unchecked_congr he).trans hu))
      · exact hn (.inr (he.trans hf))
    intro a' hm
    rcases List.mem_cons.mp hm with rfl | hm
    · exact hlt
    · have := List.rel_of_pairwise_cons hs.of_cons (mem_of_applied h hm)
      omega
  | skip hg hv h ih => exact ih (hs.sublist (.cons_cons a (List.sublist_cons_self _ _))) hc

lemma next_foldl_rests (h : ∀ y ∈ ys, l.unchecked y ∧ l.past y ≤ l.next s) :
    l.next (ys.foldl t.advance s) = l.next s := by
  induction ys generalizing s with
  | nil => rfl
  | cons y ys ih =>
    obtain ⟨⟨hu, hp⟩, h⟩ := List.forall_mem_cons.mp h
    have hy := l.rests hu s hp
    rw [List.foldl_cons, ih fun y' hm => by rw [hy]; exact h y' hm, hy]

lemma le_next_foldl (hu : l.unchecked x) (s : SequenceState) (ys : List γ) :
    l.next s ≤ l.next (ys.foldl t.advance s) := by
  induction ys generalizing s with
  | nil => exact Int.le_refl _
  | cons y ys ih => exact Int.le_trans (l.grows hu s y) (ih _)

lemma swaps_of_mem {g : γ} (hg : g ∈ [a, b]) (hu : l.unchecked g) (s : SequenceState) :
    t.advance (t.advance s a) b = t.advance (t.advance s b) a := by
  rcases List.mem_cons.mp hg with rfl | hg
  · exact l.swaps hu s b
  · obtain rfl := List.mem_singleton.mp hg
    exact (l.swaps hu s a).symm

lemma merge_first (h : ∀ b ∈ bs, l.first a ≤ l.first b) : l.merge (a :: as) bs = a :: l.merge as bs := by
  cases bs with
  | nil => simp
  | cons b bs => rw [merge, List.cons_merge_cons, if_pos (decide_eq_true (h b List.mem_cons_self))]

lemma merge_second (h : ∀ a ∈ as, l.first b < l.first a) : l.merge as (b :: bs) = b :: l.merge as bs := by
  cases as with
  | nil => simp
  | cons a as =>
    have hlt := h a List.mem_cons_self
    rw [merge, List.cons_merge_cons, if_neg (by simpa using hlt)]

lemma foldl_merge {β : Type} {f : β → γ → β} (hs : as.Pairwise fun a b => l.first a ≤ l.first b)
    (h : ∀ a ∈ as, ∀ b ∈ bs, l.first b < l.first a → ∀ x, f (f x a) b = f (f x b) a) (x : β) :
    (l.merge as bs).foldl f x = bs.foldl f (as.foldl f x) := by
  induction as generalizing x bs with
  | nil => rw [merge, List.nil_merge, List.foldl_nil]
  | cons a as iha =>
    induction bs generalizing x with
    | nil => rw [merge, List.merge_right, List.foldl_nil]
    | cons b bs ihb =>
      by_cases hab : l.first a ≤ l.first b
      · rw [merge, List.cons_merge_cons, if_pos (decide_eq_true hab)]
        exact iha hs.of_cons (fun a' hm => h a' (List.mem_cons_of_mem a hm)) (f x a)
      · have hlt : ∀ a' ∈ a :: as, l.first b < l.first a' := by
          refine List.forall_mem_cons.mpr ⟨Int.not_le.mp hab, fun a' hm => ?_⟩
          exact Int.lt_of_lt_of_le (Int.not_le.mp hab) (List.rel_of_pairwise_cons hs hm)
        rw [merge_second hlt, List.foldl_cons, List.foldl_cons,
          ihb (fun a' hm b' hm' => h a' hm b' (List.mem_cons_of_mem b hm')) (f x b)]
        rw [foldl_past fun a' hm x' => (h a' hm b List.mem_cons_self (hlt a' hm) x').symm]

/-- In the midst of a walk over two batches: `xs` and `ys` were applied, and `as` and `bs` are left, on which the walks
over one batch after the other come to the verdicts `va` and `vb`. -/
structure Meets (l : Line t) (s : SequenceState) (xs ys as bs : List γ) (va vb : Verdicts γ) : Prop where
  judgesA : t.Judges (xs.foldl t.advance s) as va
  judgesB : t.Judges (ys.foldl t.advance ((xs ++ va.applied).foldl t.advance s)) bs vb
  sortedA : as.Pairwise fun a b => l.first a ≤ l.first b
  sortedB : bs.Pairwise fun a b => l.first a ≤ l.first b
  behindA : ∀ x ∈ xs, (∀ a ∈ as, l.first x ≤ l.first a) ∧ ∀ b ∈ bs, l.first x ≤ l.first b
  behindB : ∀ y ∈ ys, (∀ a ∈ as, l.first y < l.first a) ∧ ∀ b ∈ bs, l.first y ≤ l.first b
  apart : l.Apart s { va with applied := xs ++ va.applied } { vb with applied := ys ++ vb.applied }
  swapped : ∀ y ∈ ys, ∀ a ∈ va.applied, ∃ g ∈ [a, y], l.unchecked g ∧ l.past g ≤ l.next (xs.foldl t.advance s)

def Merges (l : Line t) (s : SequenceState) (as bs : List γ) (va vb : Verdicts γ) : Prop :=
  ∃ v, t.Judges s (l.merge as bs) v ∧ v.applied = l.merge va.applied vb.applied ∧ v.held = []

namespace Meets

lemma apply_first (h : l.Meets s xs ys (a :: as) bs { v with applied := a :: v.applied } vb)
    (hc : t.continues (xs.foldl t.advance s) a = .ok true) (hj : t.Judges (t.advance (xs.foldl t.advance s) a) as v)
    (hab : ∀ b ∈ bs, l.first a ≤ l.first b) :
    t.continues (ys.foldl t.advance (xs.foldl t.advance s)) a = .ok true ∧
      t.advance (ys.foldl t.advance (xs.foldl t.advance s)) a = ys.foldl t.advance ((xs ++ [a]).foldl t.advance s) ∧
      l.Meets s (xs ++ [a]) ys as bs v vb := by
  have hswap : ∀ y ∈ ys, ∃ g ∈ [a, y], l.unchecked g ∧ l.past g ≤ l.next (xs.foldl t.advance s) :=
    fun y hm => h.swapped y hm a List.mem_cons_self
  have hx : (xs ++ [a]).foldl t.advance s = t.advance (xs.foldl t.advance s) a := by
    rw [List.foldl_append]
    rfl
  have happ : xs ++ a :: v.applied = xs ++ [a] ++ v.applied := by rw [List.append_assoc, List.singleton_append]
  refine ⟨?_, ?_, ?_⟩
  · by_cases hu : l.unchecked a
    · exact l.continues_unchecked hu _
    · have hn : l.next (ys.foldl t.advance (xs.foldl t.advance s)) = l.next (xs.foldl t.advance s) := by
        refine next_foldl_rests fun y hm => ?_
        obtain ⟨g, hg, hug, hp⟩ := hswap y hm
        rcases List.mem_cons.mp hg with rfl | hg
        · exact absurd hug hu
        · obtain rfl := List.mem_singleton.mp hg
          exact ⟨hug, hp⟩
      rw [l.continues_congr hn, hc]
  · rw [hx]
    refine (foldl_past (fun y hm s' => ?_) _).symm
    obtain ⟨g, hg, hug, -⟩ := hswap y hm
    exact swaps_of_mem hg hug s'
  · exact
      { judgesA := by rwa [hx]
        judgesB := by simpa only [happ] using h.judgesB
        sortedA := h.sortedA.of_cons
        sortedB := h.sortedB
        behindA := by
          simp only [List.forall_mem_append, List.forall_mem_singleton]
          refine ⟨fun x hm => ?_, fun a' hm => List.rel_of_pairwise_cons h.sortedA hm, hab⟩
          exact ⟨fun a' hm' => (h.behindA x hm).1 a' (List.mem_cons_of_mem a hm'), (h.behindA x hm).2⟩
        behindB := fun y hm =>
          ⟨fun a' hm' => (h.behindB y hm).1 a' (List.mem_cons_of_mem a hm'), (h.behindB y hm).2⟩
        apart := by simpa only [happ] using h.apart
        swapped := fun y hm a' hm' => by
          obtain ⟨g, hg, hug, hp⟩ := h.swapped y hm a' (List.mem_cons_of_mem a hm')
          rw [hx]
          exact ⟨g, hg, hug, Int.le_trans hp (l.grows hug _ a)⟩ }

lemma skip_first (h : l.Meets s xs ys (a :: as) bs { v with skipped := a :: v.skipped } vb)
    (hc : t.continues (xs.foldl t.advance s) a = .ok false) (hj : t.Judges (xs.foldl t.advance s) as v)
    (hab : ∀ b ∈ bs, l.first a ≤ l.first b) :
    t.Skips (ys.foldl t.advance (xs.foldl t.advance s)) a ∧ l.Meets s xs ys as bs v vb := by
  refine ⟨?_, ?_⟩
  · have hs := h.apart.early a List.mem_cons_self
    have hb : ∀ b ∈ vb.applied, decide (l.first b < l.first a) = false :=
      fun b hm => decide_eq_false (Int.not_lt.mpr (hab b (mem_of_applied h.judgesB hm)))
    rwa [filter_append_self (fun y hm => decide_eq_true ((h.behindB y hm).1 a List.mem_cons_self)) hb,
      place_append (fun x hm => (h.behindA x hm).1 a List.mem_cons_self) (lt_of_skips h.sortedA hc hj)] at hs
  · exact
      { judgesA := hj
        judgesB := h.judgesB
        sortedA := h.sortedA.of_cons
        sortedB := h.sortedB
        behindA := fun x hm => ⟨fun a' hm' => (h.behindA x hm).1 a' (List.mem_cons_of_mem a hm'), (h.behindA x hm).2⟩
        behindB := fun y hm => ⟨fun a' hm' => (h.behindB y hm).1 a' (List.mem_cons_of_mem a hm'), (h.behindB y hm).2⟩
        apart :=
          { early := fun a' hm => h.apart.early a' (List.mem_cons_of_mem a hm)
            late := h.apart.late
            swapped := h.apart.swapped }
        swapped := h.swapped }

lemma apply_second (h : l.Meets s xs ys as (b :: bs) va { v with applied := b :: v.applied })
    (hc : t.continues (ys.foldl t.advance ((xs ++ va.applied).foldl t.advance s)) b = .ok true)
    (hj : t.Judges (t.advance (ys.foldl t.advance ((xs ++ va.applied).foldl t.advance s)) b) bs v)
    (hba : ∀ a ∈ as, l.first b < l.first a) :
    t.continues (ys.foldl t.advance (xs.foldl t.advance s)) b = .ok true ∧
      l.Meets s xs (ys ++ [b]) as bs va v := by
  have hswap : ∀ a ∈ va.applied, ∃ g ∈ [a, b], l.unchecked g ∧ l.past g ≤ l.next (xs.foldl t.advance s) := by
    intro a hm
    have hlt : ∀ a' ∈ va.applied, l.first b < l.first a' := fun a' hm' => hba a' (mem_of_applied h.judgesA hm')
    have hs := h.apart.swapped a (List.mem_append_right xs hm) b
      (List.mem_append_right ys List.mem_cons_self) (hlt a hm)
    rwa [place_append (fun x hx => (h.behindA x hx).2 b List.mem_cons_self) hlt] at hs
  refine ⟨?_, ?_⟩
  · by_cases hu : l.unchecked b
    · exact l.continues_unchecked hu _
    · -- None of the groups in front of which `b` is applied now had moved the counter.
      have hr : ∀ a ∈ va.applied, l.unchecked a ∧ l.past a ≤ l.next (xs.foldl t.advance s) := by
        intro a hm
        obtain ⟨g, hg, hug, hp⟩ := hswap a hm
        rcases List.mem_cons.mp hg with rfl | hg
        · exact ⟨hug, hp⟩
        · obtain rfl := List.mem_singleton.mp hg
          exact absurd hug hu
      have hn : l.next (va.applied.foldl t.advance (ys.foldl t.advance (xs.foldl t.advance s))) =
          l.next (ys.foldl t.advance (xs.foldl t.advance s)) :=
        next_foldl_rests fun a hm => ⟨(hr a hm).1, Int.le_trans (hr a hm).2 (le_next_foldl (hr a hm).1 _ ys)⟩
      rw [← l.continues_congr hn, foldl_comm fun y _ a hm s' => (l.swaps (hr a hm).1 s' y).symm]
      rwa [List.foldl_append] at hc
  · exact
      { judgesA := h.judgesA
        judgesB := by
          rw [List.foldl_append]
          exact hj
        sortedA := h.sortedA
        sortedB := h.sortedB.of_cons
        behindA := fun x hm => ⟨(h.behindA x hm).1, fun b' hm' => (h.behindA x hm).2 b' (List.mem_cons_of_mem b hm')⟩
        behindB := by
          simp only [List.forall_mem_append, List.forall_mem_singleton]
          refine ⟨fun y hm => ?_, hba, fun b' hm => List.rel_of_pairwise_cons h.sortedB hm⟩
          exact ⟨(h.behindB y hm).1, fun b' hm' => (h.behindB y hm).2 b' (List.mem_cons_of_mem b hm')⟩
        apart := by simpa only [List.append_assoc, List.singleton_append] using h.apart
        swapped := by
          simp only [List.forall_mem_append, List.forall_mem_singleton]
          exact ⟨h.swapped, hswap⟩ }

lemma skip_second (h : l.Meets s xs ys as (b :: bs) va { v with skipped := b :: v.skipped })
    (hc : t.continues (ys.foldl t.advance ((xs ++ va.applied).foldl t.advance s)) b = .ok false)
    (hj : t.Judges (ys.foldl t.advance ((xs ++ va.applied).foldl t.advance s)) bs v)
    (hba : ∀ a ∈ as, l.first b < l.first a) :
    t.Skips (ys.foldl t.advance (xs.foldl t.advance s)) b ∧ l.Meets s xs ys as bs va v := by
  refine ⟨?_, ?_⟩
  · have hs := h.apart.late b List.mem_cons_self
    rwa [place_append (fun x hm => (h.behindA x hm).2 b List.mem_cons_self)
        fun a hm => hba a (mem_of_applied h.judgesA hm),
      place_append (fun y hm => (h.behindB y hm).2 b List.mem_cons_self) (lt_of_skips h.sortedB hc hj)] at hs
  · exact
      { judgesA := h.judgesA
        judgesB := hj
        sortedA := h.sortedA
        sortedB := h.sortedB.of_cons
        behindA := fun x hm => ⟨(h.behindA x hm).1, fun b' hm' => (h.behindA x hm).2 b' (List.mem_cons_of_mem b hm')⟩
        behindB := fun y hm => ⟨(h.behindB y hm).1, fun b' hm' => (h.behindB y hm).2 b' (List.mem_cons_of_mem b hm')⟩
        apart :=
          { early := h.apart.early
            late := fun b' hm => h.apart.late b' (List.mem_cons_of_mem b hm)
            swapped := h.apart.swapped }
        swapped := h.swapped }

lemma merges_first (h : l.Meets s xs ys (a :: as) bs va vb) (hh : va.held = [])
    (hab : ∀ b ∈ bs, l.first a ≤ l.first b)
    (ih : ∀ {xs va}, l.Meets s xs ys as bs va vb → va.held = [] →
      l.Merges (ys.foldl t.advance (xs.foldl t.advance s)) as bs va vb) :
    l.Merges (ys.foldl t.advance (xs.foldl t.advance s)) (a :: as) bs va vb := by
  have hb : ∀ b ∈ vb.applied, l.first a ≤ l.first b := fun b hm => hab b (mem_of_applied h.judgesB hm)
  rw [Merges, merge_first hab]
  cases h.judgesA with
  | apply hc hj =>
    obtain ⟨hc', hs, h'⟩ := h.apply_first hc hj hab
    obtain ⟨v, hv, ha, hn⟩ := ih h' hh
    exact ⟨_, .apply hc' (by rwa [hs]), (congrArg (a :: ·) ha).trans (merge_first hb).symm, hn⟩
  | skip hc hcov hj =>
    obtain ⟨⟨hc', hcov'⟩, h'⟩ := h.skip_first hc hj hab
    obtain ⟨v, hv, ha, hn⟩ := ih h' hh
    exact ⟨_, .skip hc' hcov' hv, ha, hn⟩
  | hold => cases hh

lemma merges_second (h : l.Meets s xs ys as (b :: bs) va vb) (hh : vb.held = [])
    (hba : ∀ a ∈ as, l.first b < l.first a)
    (ih : ∀ {ys vb}, l.Meets s xs ys as bs va vb → vb.held = [] →
      l.Merges (ys.foldl t.advance (xs.foldl t.advance s)) as bs va vb) :
    l.Merges (ys.foldl t.advance (xs.foldl t.advance s)) as (b :: bs) va vb := by
  have ha : ∀ a ∈ va.applied, l.first b < l.first a := fun a hm => hba a (mem_of_applied h.judgesA hm)
  rw [Merges, merge_second hba]
  cases h.judgesB with
  | apply hc hj =>
    obtain ⟨hc', h'⟩ := h.apply_second hc hj hba
    obtain ⟨v, hv, hx, hn⟩ := ih h' hh
    rw [List.foldl_append] at hv
    exact ⟨_, .apply hc' hv, (congrArg (b :: ·) hx).trans (merge_second ha).symm, hn⟩
  | skip hc hcov hj =>
    obtain ⟨⟨hc', hcov'⟩, h'⟩ := h.skip_second hc hj hba
    obtain ⟨v, hv, hx, hn⟩ := ih h' hh
    exact ⟨_, .skip hc' hcov' hv, hx, hn⟩
  | hold => cases hh

lemma merges (h : l.Meets s xs ys as bs va vb) (hva : va.held = []) (hvb : vb.held = []) :
    l.Merges (ys.foldl t.advance (xs.foldl t.advance s)) as bs va vb := by
  induction as generalizing xs va ys bs vb with
  | nil =>
    induction bs generalizing ys vb with
    | nil =>
      cases h.judgesA
      cases h.judgesB
      rw [Merges, merge, List.nil_merge]
      exact ⟨_, .done _, rfl, rfl⟩
    | cons b bs ih => exact h.merges_second hvb (List.forall_mem_nil _) ih
  | cons a as iha =>
    induction bs generalizing ys vb with
    | nil => exact h.merges_first hva (List.forall_mem_nil _) fun h' hh => iha h' hh hvb
    | cons b bs ihb =>
      by_cases hab : l.first a ≤ l.first b
      · refine h.merges_first hva (fun b' hm => ?_) fun h' hh => iha h' hh hvb
        rcases List.mem_cons.mp hm with rfl | hm
        · exact hab
        · exact Int.le_trans hab (List.rel_of_pairwise_cons h.sortedB hm)
      · refine h.merges_second hvb (fun a' hm => ?_) ihb
        rcases List.mem_cons.mp hm with rfl | hm
        · exact Int.not_le.mp hab
        · exact Int.lt_of_lt_of_le (Int.not_le.mp hab) (List.rel_of_pairwise_cons h.sortedA hm)

end Meets

section

variable {gs hs : List γ}

lemma merge_applied (ha : t.Judges s (StableSort.sort l.first gs) va)
    (hb : t.Judges s' (StableSort.sort l.first hs) vb) :
    l.merge va.applied vb.applied = StableSort.sort l.first (va.applied ++ vb.applied) := by
  rw [StableSort.sort_append,
    StableSort.sort_of_sorted ((StableSort.sorted_sort l.first gs).sublist (applied_sublist ha)),
    StableSort.sort_of_sorted ((StableSort.sorted_sort l.first hs).sublist (applied_sublist hb))]

/-- Where two batches are apart, each of them comes to its own verdicts when they are walked as one. -/
theorem judges_append (l : Line t) (ha : t.Judges s (StableSort.sort l.first gs) va) (hva : va.held = [])
    (hb : t.Judges (va.applied.foldl t.advance s) (StableSort.sort l.first hs) vb) (hvb : vb.held = [])
    (h : l.Apart s va vb) :
    ∃ v, t.Judges s (StableSort.sort l.first (gs ++ hs)) v ∧
      v.applied = StableSort.sort l.first (va.applied ++ vb.applied) ∧ v.held = [] := by
  have hm : l.Meets s [] [] (StableSort.sort l.first gs) (StableSort.sort l.first hs) va vb :=
    ⟨ha, hb, StableSort.sorted_sort _ _, StableSort.sorted_sort _ _, List.forall_mem_nil _, List.forall_mem_nil _, h,
      List.forall_mem_nil _⟩
  rw [StableSort.sort_append, ← merge_applied ha hb]
  exact hm.merges hva hvb

lemma foldl_append (l : Line t) (ha : t.Judges s (StableSort.sort l.first gs) va)
    (hb : t.Judges (va.applied.foldl t.advance s) (StableSort.sort l.first hs) vb) (h : l.Apart s va vb)
    (s' : SequenceState) :
    (StableSort.sort l.first (va.applied ++ vb.applied)).foldl t.advance s' =
      vb.applied.foldl t.advance (va.applied.foldl t.advance s') := by
  rw [← merge_applied ha hb]
  refine foldl_merge ((StableSort.sorted_sort _ _).sublist (applied_sublist ha)) (fun a hma b hmb hlt => ?_) s'
  obtain ⟨g, hg, hu, -⟩ := h.swapped a hma b hmb hlt
  exact swaps_of_mem hg hu

end

lemma bounds_secret {s : SequenceState} {gs : List SecretGroup} {v : Verdicts SecretGroup}
    (h : Track.secret.Judges s gs v) :
    secret.next s ≤ secret.next (v.applied.foldl Track.secret.advance s) ∧
      (∀ g ∈ v.applied, secret.next s ≤ secret.first g ∧
        secret.first g < secret.next (v.applied.foldl Track.secret.advance s)) ∧
      ∀ g ∈ v.skipped, secret.first g < secret.next (v.applied.foldl Track.secret.advance s) ∧
        ∃ s', Track.secret.continues s' g = .ok false := by
  induction h with
  | done | hold => exact ⟨Int.le_refl _, List.forall_mem_nil _, List.forall_mem_nil _⟩
  | @apply s g gs v hc h ih =>
    obtain ⟨hn, ha, hs⟩ := ih
    have hg := (secret.continues_iff hc).mp rfl
    have hadv : secret.next (Track.secret.advance s g) = secret.first g + 1 := rfl
    rw [List.foldl_cons]
    simp only [secret, Bool.false_eq_true, false_or] at hg hadv hn ha hs ⊢
    refine ⟨by omega, List.forall_mem_cons.mpr ⟨by omega, fun g' hm => ?_⟩, hs⟩
    have := ha g' hm
    omega
  | @skip s g gs v hc hv h ih =>
    obtain ⟨hn, ha, hs⟩ := ih
    have hg := secret.covered_iff.mp hv
    simp only [secret] at hg hn
    refine ⟨hn, ha, List.forall_mem_cons.mpr ⟨⟨?_, s, hc⟩, hs⟩⟩
    simp only [secret]
    omega

lemma lt_next_place_secret {s : SequenceState} {gs : List SecretGroup} {v : Verdicts SecretGroup} {x : SecretGroup}
    (h : Track.secret.Judges s gs v) (hx : secret.first x < secret.next (v.applied.foldl Track.secret.advance s)) :
    secret.first x < secret.next (secret.place s v.applied x) := by
  induction h with
  | done | hold => exact hx
  | @apply s g gs v hc h ih =>
    by_cases hg : secret.first g ≤ secret.first x
    · rw [place_cons hg]
      exact ih hx
    · have hn : secret.first g = secret.next s := by simpa [secret] using (secret.continues_iff hc).mp rfl
      have hadv : secret.next (Track.secret.advance s g) = secret.first g + 1 := rfl
      have hp : secret.place s ([] ++ g :: v.applied) x = s := by
        refine place_append (List.forall_mem_nil _) (List.forall_mem_cons.mpr ⟨Int.not_le.mp hg, fun g' hm => ?_⟩)
        have := ((bounds_secret h).2.1 g' hm).1
        omega
      rw [List.nil_append] at hp
      rw [hp]
      omega
  | skip hc hv h ih => exact ih hx

lemma skips_secret {s s' : SequenceState} {g : SecretGroup} (hc : Track.secret.continues s' g = .ok false)
    (h : secret.first g < secret.next s) : Track.secret.Skips s g := by
  obtain ⟨n, hn, -⟩ := bind_ok hc
  refine ⟨bind_of_ok hn ?_, secret.covered_iff.mpr h⟩
  obtain ⟨-, rfl⟩ := Counter.check_eq_ok_iff.mp hn
  refine congrArg Except.ok (decide_eq_false ?_)
  simp only [secret] at h
  omega

lemma apart_secret {s : SequenceState} {as bs : List SecretGroup} {va vb : Verdicts SecretGroup}
    (ha : Track.secret.Judges s as va) (hb : Track.secret.Judges (va.applied.foldl Track.secret.advance s) bs vb) :
    secret.Apart s va vb := by
  obtain ⟨-, haa, has⟩ := bounds_secret ha
  obtain ⟨-, hba, hbs⟩ := bounds_secret hb
  refine ⟨fun a hm => ?_, fun b hm => ?_, fun a hma b hmb hlt => ?_⟩
  · obtain ⟨hlt, s', hc⟩ := has a hm
    have hn : vb.applied.filter (fun b => secret.first b < secret.first a) = [] := by
      refine List.filter_eq_nil_iff.mpr fun b hmb => ?_
      have := (hba b hmb).1
      rw [decide_eq_true_iff]
      omega
    rw [hn]
    exact skips_secret hc (lt_next_place_secret ha hlt)
  · obtain ⟨hlt, s', hc⟩ := hbs b hm
    refine skips_secret hc ?_
    by_cases hn : secret.first b < secret.next (va.applied.foldl Track.secret.advance s)
    · have hp : secret.place (secret.place s va.applied b) ([] ++ vb.applied) b = secret.place s va.applied b := by
        refine place_append (List.forall_mem_nil _) fun b' hm' => ?_
        have := (hba b' hm').1
        omega
      rw [List.nil_append] at hp
      rw [hp]
      exact lt_next_place_secret ha hn
    · have hp : secret.place s (va.applied ++ []) b = va.applied.foldl Track.secret.advance s := by
        refine place_append (fun a hm' => ?_) (List.forall_mem_nil _)
        have := (haa a hm').2
        omega
      rw [List.append_nil] at hp
      rw [hp]
      exact lt_next_place_secret hb hlt
  · have := (haa a hma).2
    have := (hba b hmb).1
    omega

end Line

end Track

end AccountReplica
