import AccountReplica.Proofs.Replay.Lines
import AccountReplica.Proofs.Storage.Writes
import Mathlib.Tactic.Common

/-! What a replay does with each group of a batch: it is applied, skipped or held back, and no counter comes past a
gap. -/

namespace AccountReplica

structure StableOrder {α : Type} (key : α → Int) (xs ys : List α) : Prop where
  sorted : ys.Pairwise fun a b => key a ≤ key b
  stable : ∀ k, ys.filter (key · = k) = xs.filter (key · = k)

namespace StableSort

variable {α : Type}

lemma filter_insert (key : α → Int) (x : α) (ys : List α) (k : Int) :
    (insert key x ys).filter (key · = k) = (x :: ys).filter (key · = k) := by
  induction ys with
  | nil => rfl
  | cons y ys ih =>
    unfold insert
    split
    · rfl
    · next hx =>
      -- The keys of `x` and `y` differ, so that one of them at most is kept.
      rw [List.filter_cons, ih]
      by_cases hk : key x = k
      · have hy : key y ≠ k := by omega
        simp [hk, hy]
      · simp [hk, List.filter_cons]

lemma stableOrder_sort (key : α → Int) (xs : List α) : StableOrder key xs (sort key xs) where
  sorted := sorted_sort key xs
  stable k := by
    induction xs with
    | nil => rfl
    | cons x xs ih =>
      refine (filter_insert key x (sort key xs) k).trans ?_
      rw [List.filter_cons, List.filter_cons, ih]

end StableSort

section

variable {α : Type} {key : α → Int} {xs xs' ys zs : List α}

lemma mem_of_filters (h : ∀ k, ys.filter (key · = k) = zs.filter (key · = k)) {x : α} (hx : x ∈ ys) : x ∈ zs := by
  have hf : x ∈ ys.filter (key · = key x) := List.mem_filter.mpr ⟨hx, decide_eq_true rfl⟩
  rw [h] at hf
  exact (List.mem_filter.mp hf).1

lemma eq_of_filters (hy : ys.Pairwise fun a b => key a ≤ key b) (hz : zs.Pairwise fun a b => key a ≤ key b)
    (h : ∀ k, ys.filter (key · = k) = zs.filter (key · = k)) : ys = zs := by
  induction ys generalizing zs with
  | nil =>
    cases zs with
    | nil => rfl
    | cons z zs => cases mem_of_filters (fun k => (h k).symm) (List.mem_cons_self (a := z) (l := zs))
  | cons y ys ih =>
    cases zs with
    | nil => cases mem_of_filters h (List.mem_cons_self (a := y) (l := ys))
    | cons z zs =>
      have hzy : key z ≤ key y := by
        rcases List.mem_cons.mp (mem_of_filters h List.mem_cons_self) with rfl | hm
        · exact Int.le_refl _
        · exact List.rel_of_pairwise_cons hz hm
      have hyz : key y ≤ key z := by
        rcases List.mem_cons.mp (mem_of_filters (fun k => (h k).symm) List.mem_cons_self) with rfl | hm
        · exact Int.le_refl _
        · exact List.rel_of_pairwise_cons hy hm
      have hk : key z = key y := Int.le_antisymm hzy hyz
      have hhead := h (key y)
      rw [List.filter_cons_of_pos (by simp), List.filter_cons_of_pos (by simpa using hk)] at hhead
      obtain ⟨rfl, -⟩ := List.cons.inj hhead
      congr 1
      refine ih hy.of_cons hz.of_cons fun k => ?_
      have hf := h k
      by_cases hyk : key y = k
      · rw [List.filter_cons_of_pos (by simpa using hyk), List.filter_cons_of_pos (by simpa using hyk)] at hf
        exact (List.cons.inj hf).2
      · rwa [List.filter_cons_of_neg (by simpa using hyk), List.filter_cons_of_neg (by simpa using hyk)] at hf

lemma StableOrder.unique (hy : StableOrder key xs ys) (hz : StableOrder key xs' zs)
    (h : ∀ k, xs.filter (key · = k) = xs'.filter (key · = k)) : ys = zs :=
  eq_of_filters hy.sorted hz.sorted fun k => (hy.stable k).trans ((h k).trans (hz.stable k).symm)

end

/-- How groups lie on the counter that they are checked against. -/
structure Gauge (γ : Type) where
  key : γ → Int
  starts : Int → γ → Prop
  ends : γ → Int
  moves : Int → γ → Int

namespace Gauge

def common : Gauge CommonGroup where
  key g := g.pts.toInt - g.count.toInt
  starts c g := g.pts.toInt - g.count.toInt = c
  ends g := g.pts.toInt
  moves _ g := g.pts.toInt

def secret : Gauge SecretGroup where
  key g := g.qts.toInt
  starts c g := g.qts.toInt - 1 = c
  ends g := g.qts.toInt
  moves _ g := g.qts.toInt

def numbered : Gauge NumberedGroup where
  key g := g.first.toInt
  starts c g := g.first = 0 ∨ g.first.toInt = c + 1
  ends g := g.last.toInt
  moves c g := max c g.last.toInt

variable {γ : Type}

def reached (G : Gauge γ) (c : Int) (gs : List γ) : Int :=
  gs.foldl G.moves c

def taken (marks : List (γ × Bool)) : List γ :=
  (marks.filter (·.2)).map (·.1)

def passed (marks : List (γ × Bool)) : List γ :=
  (marks.filter (!·.2)).map (·.1)

/-- The groups on the line, of which the first finds the counter at `c`, are applied or skipped, as they are marked,
up to a gap, and from there on held back. -/
structure Sifts (G : Gauge γ) (c : Int) (line : List γ) (v : Verdicts γ) (marks : List (γ × Bool)) : Prop where
  line : line = marks.map (·.1) ++ v.held
  applied : v.applied = taken marks
  skipped : v.skipped = passed marks
  starts : ∀ before g after, marks = before ++ (g, true) :: after → G.starts (G.reached c (taken before)) g
  covered : ∀ before g after, marks = before ++ (g, false) :: after →
    ¬G.starts (G.reached c (taken before)) g ∧ G.ends g ≤ G.reached c (taken before)
  gap : ∀ g after, v.held = g :: after → ¬G.starts (G.reached c v.applied) g ∧ G.reached c v.applied < G.ends g

variable {G : Gauge γ} {c : Int} {g : γ} {gs : List γ} {v : Verdicts γ} {marks : List (γ × Bool)}

namespace Sifts

lemma apply (h : G.Sifts (G.moves c g) gs v marks) (hg : G.starts c g) :
    G.Sifts c (g :: gs) { v with applied := g :: v.applied } ((g, true) :: marks) where
  line := congrArg (g :: ·) h.line
  applied := congrArg (g :: ·) h.applied
  skipped := h.skipped
  starts before g' after hm := by
    cases before with
    | nil =>
      cases hm
      exact hg
    | cons m before =>
      cases hm
      exact h.starts before g' after rfl
  covered before g' after hm := by
    cases before with
    | nil => cases hm
    | cons m before =>
      cases hm
      exact h.covered before g' after rfl
  gap := h.gap

lemma skip (h : G.Sifts c gs v marks) (hg : ¬G.starts c g) (he : G.ends g ≤ c) :
    G.Sifts c (g :: gs) { v with skipped := g :: v.skipped } ((g, false) :: marks) where
  line := congrArg (g :: ·) h.line
  applied := h.applied
  skipped := congrArg (g :: ·) h.skipped
  starts before g' after hm := by
    cases before with
    | nil => cases hm
    | cons m before =>
      cases hm
      exact h.starts before g' after rfl
  covered before g' after hm := by
    cases before with
    | nil =>
      cases hm
      exact ⟨hg, he⟩
    | cons m before =>
      cases hm
      exact h.covered before g' after rfl
  gap := h.gap

lemma none (h : ∀ g after, gs = g :: after → ¬G.starts c g ∧ c < G.ends g) : G.Sifts c gs ⟨[], [], gs⟩ [] where
  line := rfl
  applied := rfl
  skipped := rfl
  starts before g after hm := by cases before <;> cases hm
  covered before g after hm := by cases before <;> cases hm
  gap := h

end Sifts

structure Measures (G : Gauge γ) (t : Track γ) (counter : SequenceState → Int) : Prop where
  continues_iff : ∀ {s g b}, t.continues s g = .ok b → (b = true ↔ G.starts (counter s) g)
  covered_iff : ∀ s g, t.covered s g = true ↔ G.ends g ≤ counter s
  advance : ∀ s g, counter (t.advance s g) = G.moves (counter s) g

lemma measures_common : common.Measures Track.common (·.pts.toInt) where
  continues_iff h := by simpa [Track.Line.common, common, CommonGroup.start] using Track.Line.common.continues_iff h
  covered_iff s g := by simp [Track.common, common, Int32.le_iff_toInt_le]
  advance _ _ := rfl

lemma measures_secret : secret.Measures Track.secret (·.qts.toInt) where
  continues_iff h := by
    have := Track.Line.secret.continues_iff h
    simp [Track.Line.secret] at this
    simp [this, secret]
    omega
  covered_iff s g := by simp [Track.secret, secret, Int32.le_iff_toInt_le]
  advance _ _ := rfl

lemma measures_numbered : numbered.Measures Track.numbered (·.seq.toInt) where
  continues_iff h := by simpa [numbered] using Track.Line.continues_numbered h
  covered_iff s g := by simp [Track.numbered, numbered, Int32.le_iff_toInt_le]
  advance s g := Counter.toInt_max s.seq g.last

lemma Measures.reached {t : Track γ} {counter : SequenceState → Int} (h : G.Measures t counter) (s : SequenceState)
    (gs : List γ) : counter (gs.foldl t.advance s) = G.reached (counter s) gs := by
  induction gs generalizing s with
  | nil => rfl
  | cons g gs ih => rw [List.foldl_cons, ih, h.advance, Gauge.reached, Gauge.reached, List.foldl_cons]

lemma Measures.sifts {t : Track γ} {counter : SequenceState → Int} (h : G.Measures t counter) {s : SequenceState}
    (hj : t.Judges s gs v) : ∃ marks, G.Sifts (counter s) gs v marks := by
  induction hj with
  | done s => exact ⟨[], .none (by rintro g after ⟨⟩)⟩
  | @apply s g gs v hc _ ih =>
    obtain ⟨marks, hm⟩ := ih
    rw [h.advance] at hm
    exact ⟨_, hm.apply ((h.continues_iff hc).mp rfl)⟩
  | skip hc hv _ ih =>
    obtain ⟨marks, hm⟩ := ih
    exact ⟨_, hm.skip (fun hs => Bool.false_ne_true ((h.continues_iff hc).mpr hs)) ((h.covered_iff _ _).mp hv)⟩
  | @hold s g gs hc hv =>
    refine ⟨[], .none fun g' after he => ?_⟩
    cases he
    have hn : ¬G.ends g ≤ counter s := fun he => Bool.false_ne_true (hv.symm.trans ((h.covered_iff _ _).mpr he))
    exact ⟨fun hs => Bool.false_ne_true ((h.continues_iff hc).mpr hs), by omega⟩

end Gauge

variable {expected : SequenceState} {gs : List UpdateGroup} {t t' : Transaction} {r : GroupReplay}

lemma Batch.ofGroups_filter (gs : List UpdateGroup) :
    ofGroups (gs.filter (· ≠ .tooLong)) = { ofGroups gs with tooLong := false } := by
  have hf {γ : Type} (f : UpdateGroup → Option γ) (h : f .tooLong = none) :
      (gs.filter (· ≠ .tooLong)).filterMap f = gs.filterMap f := by
    rw [List.filterMap_filter]
    congr 1
    funext g
    by_cases hg : g = .tooLong
    · simp [hg, h]
    · simp [hg]
  simp only [ofGroups, hf UpdateGroup.common? rfl, hf UpdateGroup.secret? rfl, hf UpdateGroup.numbered? rfl,
    hf UpdateGroup.dated? rfl]
  congr 1
  simp

lemma Batch.perm_filter (h : (ofGroups gs).Judges expected r) :
    (gs.filter (· ≠ .tooLong)).Perm (r.applied ++ r.skipped ++ r.remaining) := by
  refine perm_of_judges (s := expected) (r := { r with shouldPoll := false }) ?_ rfl
  rw [ofGroups_filter]
  exact ⟨h.fits, h.common, h.secret, h.numbered, h.dated, rfl⟩

/-- Each group of the batch but `tooLong` has one of three fates, and the updates of the applied ones, and nothing
else, are written and told. -/
structure GroupReplay.Sifts (r : GroupReplay) (expected : SequenceState) (gs : List UpdateGroup)
    (t t' : Transaction) : Prop where
  fates : (gs.filter (· ≠ .tooLong)).Perm (r.applied ++ r.skipped ++ r.remaining)
  dated : r.dated = gs.filterMap UpdateGroup.dated?
  common : ∃ line marks, StableOrder Gauge.common.key (gs.filterMap UpdateGroup.common?) line ∧
    Gauge.common.Sifts expected.pts.toInt line r.common marks
  secret : ∃ line marks, StableOrder Gauge.secret.key (gs.filterMap UpdateGroup.secret?) line ∧
    Gauge.secret.Sifts expected.qts.toInt line r.secret marks
  numbered : ∃ line marks, StableOrder Gauge.numbered.key (gs.filterMap UpdateGroup.numbered?) line ∧
    Gauge.numbered.Sifts expected.seq.toInt line r.numbered marks
  remaining : r.remaining = r.common.held.map .common ++ r.secret.held.map .secret ++ r.numbered.held.map .numbered
  incomplete : r.incomplete = true ↔ r.remaining ≠ []
  shouldPoll : r.shouldPoll = true ↔ .tooLong ∈ gs
  writes : t.writeAll (r.writes expected) = .ok t'
  events : r.events.unnumbered = t.account.newsAll r.taken
  state : ∃ s, t'.account.state = some s ∧ s.pts.toInt = Gauge.common.reached expected.pts.toInt r.common.applied ∧
    s.qts.toInt = Gauge.secret.reached expected.qts.toInt r.secret.applied ∧
    s.seq.toInt = Gauge.numbered.reached expected.seq.toInt r.numbered.applied

theorem sifts_of_replayGroups (h : replayGroups expected gs t = .ok (r, t')) : r.Sifts expected gs t t' := by
  obtain ⟨hs, hr⟩ := replay_of_replayGroups h
  obtain ⟨hj, ha⟩ := Batch.judges_of_replay hr hs
  obtain ⟨mc, hc⟩ := Gauge.measures_common.sifts hj.common
  obtain ⟨ms, hs⟩ := Gauge.measures_secret.sifts hj.secret
  obtain ⟨mn, hn⟩ := Gauge.measures_numbered.sifts hj.numbered
  exact
    { fates := Batch.perm_filter hj
      dated := hj.dated
      common := ⟨_, mc, StableSort.stableOrder_sort _ _, hc⟩
      secret := ⟨_, ms, StableSort.stableOrder_sort _ _, hs⟩
      numbered := ⟨_, mn, StableSort.stableOrder_sort _ _, hn⟩
      remaining := rfl
      incomplete := by simp [GroupReplay.incomplete]
      shouldPoll := by simp [hj.shouldPoll, Batch.ofGroups]
      writes := writes_of_replayGroups h
      events := Batch.events_of_replay hr
      state := by
        refine ⟨_, by rw [ha]; rfl, ?_, ?_, ?_⟩
        · rw [Batch.pts_applied, Gauge.measures_common.reached]
        · rw [Batch.qts_applied, Gauge.measures_secret.reached]
        · rw [Batch.seq_applied, Gauge.measures_numbered.reached] }

def sampleBatch : List UpdateGroup :=
  [.common ⟨[.contact ⟨1⟩ false], 15, 1⟩, .common ⟨[.newMessage Storage.sampleHello 11 1], 11, 1⟩, .tooLong,
    .common ⟨[.deleteMessages [Storage.sampleHello.id] 11 1], 11, 1⟩,
    .secret ⟨[.newSecretMessage Storage.sampleSent 2], 2⟩,
    .numbered ⟨[.contact ⟨1⟩ true], 3, 4, 62⟩, .dated ⟨[.contact ⟨2⟩ true], 63⟩, .common ⟨[.contact ⟨3⟩ true], 12, 1⟩,
    .numbered ⟨[.contact ⟨4⟩ true], 0, 5, 61⟩]

def sampleAccount : Account :=
  Account.empty.write (.setState ⟨10, 0, 60, 1⟩)

theorem sifts_of_sampleBatch : ∃ r t', replayGroups ⟨10, 0, 60, 1⟩ sampleBatch (.start sampleAccount) = .ok (r, t') ∧
    r.Sifts ⟨10, 0, 60, 1⟩ sampleBatch (.start sampleAccount) t' := by
  obtain ⟨r, t', h⟩ : ∃ r t', replayGroups ⟨10, 0, 60, 1⟩ sampleBatch (.start sampleAccount) = .ok (r, t') :=
    ⟨_, _, rfl⟩
  exact ⟨r, t', h, sifts_of_replayGroups h⟩

example : (replayGroups ⟨10, 0, 60, 1⟩ sampleBatch (.start sampleAccount)).map (·.1.remaining) =
    .ok [.common ⟨[.contact ⟨1⟩ false], 15, 1⟩, .secret ⟨[.newSecretMessage Storage.sampleSent 2], 2⟩] := by
  rfl

end AccountReplica
