import AccountReplica.Proofs.Replay.Sifting
import Mathlib.Algebra.Order.BigOperators.Group.List
import Mathlib.Algebra.Ring.Int.Defs

/-! The counters as a ledger of the applied groups: each of them moves by what these cover, and by nothing else. -/

namespace AccountReplica

namespace Gauge

variable {γ : Type} {G : Gauge γ} {c : Int}

def Chains (G : Gauge γ) : Int → List γ → Prop
  | _, [] => True
  | c, g :: gs => G.starts c g ∧ G.Chains (G.moves c g) gs

lemma Measures.chains {t : Track γ} {counter : SequenceState → Int} (h : G.Measures t counter) {s : SequenceState}
    {gs : List γ} {v : Verdicts γ} (hj : t.Judges s gs v) : G.Chains (counter s) v.applied := by
  induction hj with
  | done | hold => exact trivial
  | @apply s g _ _ hc _ ih =>
    rw [h.advance] at ih
    exact ⟨(h.continues_iff hc).mp rfl, ih⟩
  | skip _ _ _ ih => exact ih

lemma Chains.sum_counts {gs : List CommonGroup} (h : common.Chains c gs) :
    common.reached c gs = c + (gs.map (·.count.toInt)).sum := by
  induction gs generalizing c with
  | nil => simp [reached]
  | cons g gs ih =>
    obtain ⟨hg, h⟩ := h
    have hs : g.pts.toInt - g.count.toInt = c := hg
    have hr : common.reached c (g :: gs) = g.pts.toInt + (gs.map (·.count.toInt)).sum := ih h
    rw [hr, List.map_cons, List.sum_cons]
    omega

lemma exists_negative {gs : List CommonGroup} (h : (gs.map (·.count.toInt)).sum < 0) : ∃ g ∈ gs, g.count < 0 := by
  by_contra hn
  have hsum : 0 ≤ (gs.map (·.count.toInt)).sum := by
    refine List.sum_nonneg (List.forall_mem_map.mpr fun g hg => ?_)
    by_contra hc
    refine hn ⟨g, hg, Int32.lt_iff_toInt_lt.mpr ?_⟩
    rw [Int32.toInt_zero]
    omega
  omega

lemma Chains.reached_secret {gs : List SecretGroup} (h : secret.Chains c gs) :
    secret.reached c gs = c + gs.length := by
  induction gs generalizing c with
  | nil => simp [reached]
  | cons g gs ih =>
    obtain ⟨hg, h⟩ := h
    have hs : g.qts.toInt - 1 = c := hg
    have hr : secret.reached c (g :: gs) = g.qts.toInt + gs.length := ih h
    rw [hr, List.length_cons]
    omega

lemma Chains.consecutive {gs : List SecretGroup} (h : secret.Chains c gs) {i : Nat} {g : SecretGroup}
    (hi : gs[i]? = some g) : g.qts.toInt = c + 1 + i := by
  induction gs generalizing c i with
  | nil => cases hi
  | cons g' gs ih =>
    obtain ⟨hg, h⟩ := h
    have hs : g'.qts.toInt - 1 = c := hg
    cases i with
    | zero =>
      cases hi
      omega
    | succ i =>
      have hn : g.qts.toInt = g'.qts.toInt + 1 + i := ih h hi
      omega

lemma max?_numbered (c : Int) (gs : List NumberedGroup) :
    (c :: gs.map (·.last.toInt)).max? = some (numbered.reached c gs) := by
  rw [List.max?_cons', List.foldl_map]
  rfl

end Gauge

lemma date_foldl {γ : Type} {f : SequenceState → γ → SequenceState} {date : γ → Int32}
    (hf : ∀ s g, (f s g).date = max s.date (date g)) (gs : List γ) (s : SequenceState) :
    (gs.foldl f s).date.toInt = (gs.map fun g => (date g).toInt).foldl max s.date.toInt := by
  induction gs generalizing s with
  | nil => rfl
  | cons g gs ih => rw [List.foldl_cons, ih, hf, Counter.toInt_max, List.map_cons, List.foldl_cons]

lemma Batch.max?_date (r : GroupReplay) (s : SequenceState) :
    (s.date.toInt :: (r.numbered.applied.map (·.date.toInt) ++ r.dated.map (·.date.toInt))).max? =
      some (r.applied.foldl UpdateGroup.advance s).date.toInt := by
  have hc : (r.common.applied.foldl Track.common.advance s).date = s.date :=
    foldl_keeps (f := Track.common.advance) (·.date) (fun _ _ => rfl) _ s
  have hs (s : SequenceState) : (r.secret.applied.foldl Track.secret.advance s).date = s.date :=
    foldl_keeps (f := Track.secret.advance) (·.date) (fun _ _ => rfl) _ s
  rw [advance_applied, date_foldl (f := DatedGroup.advance) fun _ _ => rfl,
    date_foldl (f := Track.numbered.advance) fun _ _ => rfl, hs, hc, List.max?_cons', List.foldl_append]

section

variable {p q : Progress}

lemma Progress.maxQts_of_updates {us : List Update} (h : p.updates us = .ok q) : q.events.maxQts = p.events.maxQts := by
  simp [events_of_updates h, EventSet.merge, Account.maxQts_newsAll]

lemma Track.maxQts_of_applyGroups {γ : Type} {t : Track γ} {f : Option Int32 → γ → Option Int32}
    (ht : ∀ g e, (t.tell g e).maxQts = f e.maxQts g) {gs : List γ} (h : t.applyGroups p gs = .ok q) :
    q.events.maxQts = gs.foldl f p.events.maxQts := by
  induction gs generalizing p with
  | nil =>
    cases h
    rfl
  | cons g gs ih =>
    obtain ⟨p', hp, h⟩ := bind_ok h
    obtain ⟨p₁, hu, hp⟩ := bind_ok hp
    cases hp
    rw [ih h, ht, Progress.maxQts_of_updates hu]
    rfl

lemma DatedGroup.maxQts_of_applyAll {gs : List DatedGroup} {sp sp' : SequenceState × Progress}
    (h : gs.foldlM apply sp = .ok sp') : sp'.2.events.maxQts = sp.2.events.maxQts := by
  refine foldlM_induct (motive := fun x => x.2.events.maxQts = sp.2.events.maxQts) h rfl ?_
  intro g _ x x' hx hm
  obtain ⟨p, hu, hp⟩ := bind_ok hx
  cases hp
  exact (Progress.maxQts_of_updates hu).trans hm

end

lemma Gauge.Chains.largest {s : SequenceState} {gs : List SecretGroup} (h : Gauge.secret.Chains s.qts.toInt gs)
    {m : Option Int32} (hm : ∀ n ∈ m, n ≤ s.qts) :
    gs.foldl (fun m g => AccountReplica.largest m (some g.qts)) m =
      if gs = [] then m else some (gs.foldl Track.secret.advance s).qts := by
  induction gs generalizing s m with
  | nil => rfl
  | cons g gs ih =>
    obtain ⟨hg, h⟩ := h
    have hs : g.qts.toInt - 1 = s.qts.toInt := hg
    have hl : AccountReplica.largest m (some g.qts) = some g.qts := by
      cases m with
      | none => rfl
      | some n =>
        have hn : n ≤ g.qts := by
          have := Int32.le_iff_toInt_le.mp (hm n rfl)
          rw [Int32.le_iff_toInt_le]
          omega
        exact congrArg some (if_pos hn)
    have ih := ih (s := Track.secret.advance s g) h (m := some g.qts) (by simp [Track.secret])
    rw [List.foldl_cons, hl, ih, if_neg (List.cons_ne_nil g gs)]
    split
    · next hgs =>
      subst hgs
      rfl
    · rfl

lemma Batch.maxQts_of_replay {b : Batch} {s : SequenceState} {t t' : Transaction} {r : GroupReplay}
    (h : b.replay s t = .ok (r, t')) :
    r.events.maxQts =
      if r.secret.applied = [] then none else some (r.secret.applied.foldl Track.secret.advance s).qts := by
  obtain ⟨hj, pc, ps, pn, p, q, sn, hc, hs, hn, hd, hq, he, -⟩ := steps_of_replay h
  have hk {γ : Type} (m : Option Int32) (gs : List γ) : gs.foldl (fun m _ => m) m = m :=
    foldl_keeps (f := fun m _ => m) id (fun _ _ => rfl) gs m
  have hc : pc.events.maxQts = none := (Track.maxQts_of_applyGroups (fun _ _ => rfl) hc).trans (hk none _)
  have hs := Track.maxQts_of_applyGroups (f := fun m g => largest m (some g.qts)) (fun _ _ => rfl) hs
  have hn : pn.events.maxQts = ps.events.maxQts := (Track.maxQts_of_applyGroups (fun _ _ => rfl) hn).trans (hk _ _)
  rw [hc] at hs
  rw [← he, Progress.events_of_setState hq, DatedGroup.maxQts_of_applyAll hd, hn, hs]
  exact (Gauge.measures_secret.chains hj.secret).largest (by simp)

/-- How the counters have come from `s` to `new`. -/
structure GroupReplay.Ledger (r : GroupReplay) (s new : SequenceState) : Prop where
  pts : new.pts.toInt - s.pts.toInt = (r.common.applied.map (·.count.toInt)).sum
  qts : new.qts.toInt - s.qts.toInt = r.secret.applied.length
  consecutive : ∀ (i : Nat) (g : SecretGroup), r.secret.applied[i]? = some g → g.qts.toInt = s.qts.toInt + 1 + i
  seq : (s.seq.toInt :: r.numbered.applied.map (·.last.toInt)).max? = some new.seq.toInt
  date : (s.date.toInt :: (r.numbered.applied.map (·.date.toInt) ++ r.dated.map (·.date.toInt))).max? =
    some new.date.toInt
  told : r.events.maxQts = if r.secret.applied = [] then none else some new.qts
  rises : s.qts ≤ new.qts ∧ s.seq ≤ new.seq ∧ s.date ≤ new.date
  falls : new.pts < s.pts → ∃ g ∈ r.common.applied, g.count < 0

theorem ledger_of_replayGroups {s : SequenceState} {gs : List UpdateGroup} {t t' : Transaction} {r : GroupReplay}
    (h : replayGroups s gs t = .ok (r, t')) : ∃ new, t'.account.state = some new ∧ r.Ledger s new := by
  obtain ⟨hs, hr⟩ := replay_of_replayGroups h
  obtain ⟨hj, ha⟩ := Batch.judges_of_replay hr hs
  refine ⟨r.applied.foldl UpdateGroup.advance s, by rw [ha]; rfl, ?_⟩
  have hpts := Gauge.measures_common.reached s r.common.applied
  have hqts := Gauge.measures_secret.reached s r.secret.applied
  have hseq := Gauge.measures_numbered.reached s r.numbered.applied
  rw [(Gauge.measures_common.chains hj.common).sum_counts, ← Batch.pts_applied] at hpts
  have hchain := Gauge.measures_secret.chains hj.secret
  rw [hchain.reached_secret, ← Batch.qts_applied] at hqts
  have hmax := Gauge.max?_numbered s.seq.toInt r.numbered.applied
  rw [← hseq, ← Batch.seq_applied] at hmax
  have hdate := Batch.max?_date r s
  have hle {x y : Int32} {xs : List Int} (hx : (x.toInt :: xs).max? = some y.toInt) : x ≤ y :=
    Int32.le_iff_toInt_le.mpr ((List.max?_eq_some_iff.mp hx).2 _ List.mem_cons_self)
  exact
    { pts := by omega
      qts := by omega
      consecutive := fun _ _ => hchain.consecutive
      seq := hmax
      date := hdate
      told := by rw [Batch.maxQts_of_replay hr, Batch.qts_applied]
      rises := ⟨Int32.le_iff_toInt_le.mpr (by omega), hle hmax, hle hdate⟩
      falls := by
        intro hlt
        have hlt := Int32.lt_iff_toInt_lt.mp hlt
        exact Gauge.exists_negative (by omega) }

def fallingBatch : List UpdateGroup :=
  [.secret ⟨[.newSecretMessage Storage.sampleSent 2], 2⟩, .common ⟨[.contact ⟨1⟩ true], 12, 1⟩,
    .common ⟨[.newMessage Storage.sampleHello 8 (-2)], 8, -2⟩, .secret ⟨[.newSecretMessage Storage.sampleHello 1], 1⟩,
    .numbered ⟨[.contact ⟨2⟩ true], 2, -3, 50⟩, .secret ⟨[], 1⟩, .dated ⟨[.contact ⟨3⟩ true], 59⟩]

theorem ledger_of_fallingBatch : ∃ r t',
    replayGroups ⟨10, 0, 60, 1⟩ fallingBatch (.start sampleAccount) = .ok (r, t') ∧
    t'.account.state = some ⟨8, 2, 60, 1⟩ ∧ r.Ledger ⟨10, 0, 60, 1⟩ ⟨8, 2, 60, 1⟩ := by
  obtain ⟨r, t', h, hs⟩ : ∃ r t', replayGroups ⟨10, 0, 60, 1⟩ fallingBatch (.start sampleAccount) = .ok (r, t') ∧
      t'.account.state = some ⟨8, 2, 60, 1⟩ :=
    ⟨_, _, rfl, rfl⟩
  obtain ⟨new, hn, hl⟩ := ledger_of_replayGroups h
  cases hs.symm.trans hn
  exact ⟨r, t', h, hs, hl⟩

end AccountReplica
