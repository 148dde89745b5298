import AccountReplica.Proofs.Replay.Sifting

/-! A batch that comes again: what was applied is skipped, and the gaps are where they were. -/

namespace AccountReplica

namespace Track

variable {γ : Type} {t : Track γ}

namespace Line

structure Solid (l : Line t) (gs : List γ) : Prop where
  checked : ∀ g ∈ gs, ¬l.unchecked g
  long : ∀ g ∈ gs, l.first g < l.past g
  moves : ∀ g ∈ gs, ∀ s, t.continues s g = .ok true → l.next (t.advance s g) = l.past g
  checks : ∀ g ∈ gs, ∀ s, t.continues s g = .ok true → ∀ h b, t.continues s h = .ok b →
    ∃ b', t.continues (t.advance s g) h = .ok b'

variable {l : Line t} {s : SequenceState} {g : γ} {gs : List γ} {v : Verdicts γ}

lemma Solid.tail (h : l.Solid (g :: gs)) : l.Solid gs where
  checked g' hm := h.checked g' (List.mem_cons_of_mem g hm)
  long g' hm := h.long g' (List.mem_cons_of_mem g hm)
  moves g' hm := h.moves g' (List.mem_cons_of_mem g hm)
  checks g' hm := h.checks g' (List.mem_cons_of_mem g hm)

lemma Solid.continues_iff (h : l.Solid gs) (hg : g ∈ gs) {b : Bool} (hc : t.continues s g = .ok b) :
    b = true ↔ l.first g = l.next s := by
  rw [l.continues_iff hc]
  exact or_iff_right (h.checked g hg)

lemma Solid.climbs (h : l.Solid gs) (hj : t.Judges s gs v) :
    l.next s ≤ l.next (v.applied.foldl t.advance s) ∧
      ∀ g b, t.continues s g = .ok b → ∃ b', t.continues (v.applied.foldl t.advance s) g = .ok b' := by
  induction hj with
  | done | hold => exact ⟨Int.le_refl _, fun _ b hb => ⟨b, hb⟩⟩
  | @apply s g gs v hc hj ih =>
    obtain ⟨hle, hk⟩ := ih h.tail
    have hs : l.first g = l.next s := (h.continues_iff List.mem_cons_self hc).mp rfl
    have hlong := h.long g List.mem_cons_self
    have hm := h.moves g List.mem_cons_self s hc
    refine ⟨?_, fun g' b hb => ?_⟩
    · rw [List.foldl_cons]
      omega
    · obtain ⟨b', hb'⟩ := h.checks g List.mem_cons_self s hc g' b hb
      exact hk g' b' hb'
  | skip _ _ _ ih => exact ih h.tail

lemma Solid.skips (h : l.Solid gs) (hg : g ∈ gs) {b : Bool} (hc : t.continues s g = .ok b)
    (hp : l.past g ≤ l.next s) : t.continues s g = .ok false ∧ t.covered s g = true := by
  refine ⟨?_, l.covered_iff.mpr hp⟩
  cases b with
  | false => exact hc
  | true =>
    have hs := (h.continues_iff hg hc).mp rfl
    have hlong := h.long g hg
    omega

/-- From where a walk has ended the same groups are walked without applying any, up to the same gap. -/
lemma Solid.judges_again (h : l.Solid gs) (hj : t.Judges s gs v) :
    ∃ skipped, t.Judges (v.applied.foldl t.advance s) gs ⟨[], skipped, v.held⟩ := by
  induction hj with
  | done s => exact ⟨[], .done s⟩
  | @apply s g gs v hc hj ih =>
    obtain ⟨skipped, ha⟩ := ih h.tail
    obtain ⟨hle, hk⟩ := h.tail.climbs hj
    have hm := h.moves g List.mem_cons_self s hc
    obtain ⟨b, hb⟩ := h.checks g List.mem_cons_self s hc g true hc
    obtain ⟨b', hb'⟩ := hk g b hb
    obtain ⟨hc', hv⟩ := h.skips List.mem_cons_self hb' (by omega)
    exact ⟨g :: skipped, .skip hc' hv ha⟩
  | @skip s g gs v hc hv hj ih =>
    obtain ⟨skipped, ha⟩ := ih h.tail
    obtain ⟨hle, hk⟩ := h.tail.climbs hj
    have hp : l.past g ≤ l.next s := l.covered_iff.mp hv
    obtain ⟨b', hb'⟩ := hk g false hc
    obtain ⟨hc', hv'⟩ := h.skips List.mem_cons_self hb' (by omega)
    exact ⟨g :: skipped, .skip hc' hv' ha⟩
  | hold hc hv => exact ⟨[], .hold hc hv⟩

lemma solid_common {gs : List CommonGroup} (h : ∀ g ∈ gs, 1 ≤ g.count) : common.Solid gs where
  checked _ _ := nofun
  long g hg := by
    have hc : 1 ≤ g.count.toInt := Int32.le_iff_toInt_le.mp (h g hg)
    simp only [common, CommonGroup.start]
    omega
  moves _ _ _ _ := rfl
  checks _ _ _ _ _ _ _ := ⟨_, rfl⟩

lemma solid_secret (gs : List SecretGroup) : secret.Solid gs where
  checked _ _ := nofun
  long g _ := by
    simp only [secret]
    omega
  moves _ _ _ _ := rfl
  checks _ _ _ _ h b hb := by
    -- Only the number of `h` matters, and not where the counter stands.
    obtain ⟨n, hn, -⟩ := bind_ok hb
    exact ⟨_, bind_of_ok hn rfl⟩

lemma solid_numbered {gs : List NumberedGroup}
    (h : ∀ g ∈ gs, 1 ≤ g.first ∧ g.first ≤ g.last ∧ g.last < Int32.maxValue) : numbered.Solid gs := by
  have hi {g : NumberedGroup} (hg : g ∈ gs) :
      1 ≤ g.first.toInt ∧ g.first.toInt ≤ g.last.toInt ∧ g.last.toInt < 0x7fffffff := by
    obtain ⟨h₁, h₂, h₃⟩ := h g hg
    exact ⟨Int32.le_iff_toInt_le.mp h₁, Int32.le_iff_toInt_le.mp h₂, Int32.lt_iff_toInt_lt.mp h₃⟩
  have hn {g : NumberedGroup} (hg : g ∈ gs) : g.first ≠ 0 := by
    intro h0
    obtain ⟨h₁, -⟩ := hi hg
    rw [h0, Int32.toInt_zero] at h₁
    omega
  have hm {g : NumberedGroup} (hg : g ∈ gs) {s : SequenceState} (hc : Track.numbered.continues s g = .ok true) :
      (Track.numbered.advance s g).seq.toInt = g.last.toInt := by
    obtain ⟨-, h₂, -⟩ := hi hg
    rcases (numbered.continues_iff hc).mp rfl with hu | hs
    · exact absurd (of_decide_eq_true hu) (hn hg)
    · have hs : g.first.toInt = s.seq.toInt + 1 := hs
      simp only [Track.numbered, Counter.toInt_max]
      omega
  exact
    { checked := fun g hg hu => hn hg (of_decide_eq_true hu)
      long := fun g hg => by
        obtain ⟨-, h₂, -⟩ := hi hg
        simp only [numbered]
        omega
      moves := fun g hg s hc => congrArg (· + 1) (hm hg hc)
      checks := fun g hg s hc g' b hb => by
        obtain ⟨h₁, h₂, h₃⟩ := hi hg
        have hf : Counter.Fits ((Track.numbered.advance s g).seq.toInt + 1) := by
          rw [hm hg hc]
          simp only [Counter.Fits]
          omega
        simp only [Track.numbered] at hf ⊢
        split
        · exact ⟨true, rfl⟩
        · exact ⟨_, bind_of_ok (Counter.check_eq_ok_iff.mpr ⟨hf, rfl⟩) rfl⟩ }

end Line

end Track

namespace Batch

variable {b : Batch} {s : SequenceState} {r : GroupReplay}

lemma replay_idle (h : b.Judges s r) (ha : r.applied = []) (t : Transaction) :
    b.replay s t = .ok ({ r with events := .empty }, t) := by
  obtain ⟨hc, hs, hn, hd⟩ : r.common.applied = [] ∧ r.secret.applied = [] ∧ r.numbered.applied = [] ∧ r.dated = [] := by
    simpa [GroupReplay.applied] using ha
  have he {γ : Type} (x : Track γ) {gs : List γ} (hg : gs = []) :
      x.applyGroups ⟨t, .empty⟩ gs = .ok ⟨t, .empty⟩ := by
    subst hg
    rfl
  refine replay_of_steps (q := ⟨t, .empty⟩) h (he _ hc) (he _ hs) (he _ hn) ?_ (if_pos rfl)
  rw [hd, hn, hs, hc]
  rfl

end Batch

namespace UpdateGroup

/-- The group is checked by a counter, and covers a stretch of it that ends within 32 bits. -/
def Firm : UpdateGroup → Prop
  | common g => 1 ≤ g.count
  | secret _ => True
  | numbered g => 1 ≤ g.first ∧ g.first ≤ g.last ∧ g.last < Int32.maxValue
  | dated _ | tooLong => False

instance : DecidablePred Firm
  | common g => inferInstanceAs (Decidable (1 ≤ g.count))
  | secret _ => .isTrue trivial
  | numbered g => inferInstanceAs (Decidable (1 ≤ g.first ∧ g.first ≤ g.last ∧ g.last < Int32.maxValue))
  | dated _ | tooLong => .isFalse id

end UpdateGroup

section

variable {s : SequenceState} {gs : List UpdateGroup} {r : GroupReplay}

lemma Batch.judges_again (hf : ∀ g ∈ gs, g.Firm) (hj : (ofGroups gs).Judges s r) :
    ∃ r', (ofGroups gs).Judges (r.applied.foldl UpdateGroup.advance s) r' ∧ r'.applied = [] ∧
      r'.remaining = r.remaining ∧ r'.shouldPoll = r.shouldPoll := by
  obtain ⟨sc, hc⟩ := (Track.Line.solid_common fun g hg => hf _ (mem_common.mp hg)).judges_again hj.common
  obtain ⟨ss, hs⟩ := (Track.Line.solid_secret _).judges_again hj.secret
  obtain ⟨sn, hn⟩ := (Track.Line.solid_numbered fun g hg => hf _ (mem_numbered.mp hg)).judges_again hj.numbered
  have hd : (ofGroups gs).dated = [] := List.eq_nil_iff_forall_not_mem.mpr fun g hg => hf _ (mem_dated.mp hg)
  refine ⟨⟨.empty, r.shouldPoll, ⟨[], sc, r.common.held⟩, ⟨[], ss, r.secret.held⟩, ⟨[], sn, r.numbered.held⟩, []⟩,
    ⟨hj.fits, ?_, ?_, ?_, hd.symm, hj.shouldPoll⟩, rfl, rfl, rfl⟩
  · exact Track.common_congr hc (pts_applied r s).symm
  · exact Track.secret_congr hs (qts_applied r s).symm
  · exact Track.numbered_congr hn (seq_applied r s).symm

/-- On top of what its replay has left, a batch of such groups applies nothing, writes nothing and tells nothing, and
holds back what it has held back. -/
theorem replayGroups_again {t t' : Transaction} (hf : ∀ g ∈ gs, g.Firm) (h : replayGroups s gs t = .ok (r, t')) :
    ∃ s' r', t'.account.state = some s' ∧ r'.applied = [] ∧ r'.events = .empty ∧ r'.remaining = r.remaining ∧
      ∀ refusal, replayGroups s' gs ⟨t'.account, refusal⟩ = .ok (r', ⟨t'.account, refusal⟩) := by
  obtain ⟨hs, hr⟩ := replay_of_replayGroups h
  obtain ⟨hj, ha⟩ := Batch.judges_of_replay hr hs
  obtain ⟨r', hj', happ, hrem, -⟩ := Batch.judges_again hf hj
  have hstate : t'.account.state = some (r.applied.foldl UpdateGroup.advance s) := by
    rw [ha]
    rfl
  refine ⟨_, { r' with events := .empty }, hstate, happ, rfl, hrem, fun refusal => ?_⟩
  simp only [replayGroups]
  exact (if_pos hstate).trans (Batch.replay_idle hj' happ _)

def repeatedBatch : List UpdateGroup :=
  [.common ⟨[.newMessage Storage.sampleHello 11 1], 11, 1⟩, .common ⟨[.newMessage Storage.sampleHello 11 1], 11, 1⟩,
    .common ⟨[.contact ⟨1⟩ true], 13, 2⟩, .common ⟨[.contact ⟨2⟩ true], 12, 1⟩, .common ⟨[.contact ⟨3⟩ true], 15, 1⟩,
    .secret ⟨[.newSecretMessage Storage.sampleSent 1], 1⟩, .secret ⟨[], 3⟩, .secret ⟨[], 1⟩,
    .numbered ⟨[.contact ⟨2⟩ false], 2, 4, 61⟩, .numbered ⟨[.contact ⟨1⟩ false], 3, 3, 63⟩, .numbered ⟨[], 4, 9, 64⟩]

theorem replayGroups_repeatedBatch : (∀ g ∈ repeatedBatch, g.Firm) ∧ ∃ r t',
    replayGroups ⟨10, 0, 60, 1⟩ repeatedBatch (.start sampleAccount) = .ok (r, t') ∧ r.remaining.length = 3 ∧
      ∃ s' r', t'.account.state = some s' ∧ r'.applied = [] ∧ r'.events = .empty ∧ r'.remaining = r.remaining ∧
        ∀ refusal, replayGroups s' repeatedBatch ⟨t'.account, refusal⟩ = .ok (r', ⟨t'.account, refusal⟩) := by
  have hf : ∀ g ∈ repeatedBatch, g.Firm := by decide
  obtain ⟨r, t', h, hl⟩ : ∃ r t', replayGroups ⟨10, 0, 60, 1⟩ repeatedBatch (.start sampleAccount) = .ok (r, t') ∧
      r.remaining.length = 3 :=
    ⟨_, _, rfl, rfl⟩
  exact ⟨hf, r, t', h, hl, replayGroups_again hf h⟩

end

end AccountReplica
