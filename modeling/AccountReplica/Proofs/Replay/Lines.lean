import AccountReplica.Proofs.Replay.Verdicts

/-! Counters as lines on which groups lie. -/

namespace AccountReplica

namespace Track

variable {γ : Type}

/-- Each group lies from `first` up to `past` on the line, and continues a counter that stands at its `first`. -/
structure Line (t : Track γ) where
  next : SequenceState → Int
  first : γ → Int
  past : γ → Int
  unchecked : γ → Bool
  continues_iff : ∀ {s g b}, t.continues s g = .ok b → (b = true ↔ unchecked g ∨ first g = next s)
  covered_iff : ∀ {s g}, t.covered s g = true ↔ past g ≤ next s
  continues_congr : ∀ {s s'}, next s = next s' → ∀ g, t.continues s g = t.continues s' g
  continues_unchecked : ∀ {g}, unchecked g → ∀ s, t.continues s g = .ok true
  unchecked_congr : ∀ {g h}, first g = first h → unchecked g = unchecked h
  grows : ∀ {g}, unchecked g → ∀ s h, next s ≤ next (t.advance s h)
  rests : ∀ {g}, unchecked g → ∀ s, past g ≤ next s → next (t.advance s g) = next s
  swaps : ∀ {g}, unchecked g → ∀ s h, t.advance (t.advance s g) h = t.advance (t.advance s h) g

namespace Line

def common : Line Track.common where
  next s := s.pts.toInt
  first g := g.start
  past g := g.pts.toInt
  unchecked _ := false
  continues_iff h := by
    cases h
    simp
  covered_iff := by simp [Track.common, Int32.le_iff_toInt_le]
  continues_congr h g := by simp only [Track.common, h]
  continues_unchecked := nofun
  unchecked_congr _ := rfl
  grows := nofun
  rests := nofun
  swaps := nofun

lemma continues_secret {s : SequenceState} {g : SecretGroup} {b : Bool} (h : Track.secret.continues s g = .ok b) :
    b = true ↔ false = true ∨ g.qts.toInt = s.qts.toInt + 1 := by
  obtain ⟨n, hn, h⟩ := bind_ok h
  obtain ⟨-, rfl⟩ := Counter.check_eq_ok_iff.mp hn
  cases h
  simp
  omega

lemma continues_secret_congr {s s' : SequenceState} (h : s.qts.toInt + 1 = s'.qts.toInt + 1) (g : SecretGroup) :
    Track.secret.continues s g = Track.secret.continues s' g := by
  have hq : s.qts.toInt = s'.qts.toInt := by omega
  simp only [Track.secret, hq]

def secret : Line Track.secret where
  next s := s.qts.toInt + 1
  first g := g.qts.toInt
  past g := g.qts.toInt + 1
  unchecked _ := false
  continues_iff := continues_secret
  covered_iff := by simp [Track.secret, Int32.le_iff_toInt_le]
  continues_congr := continues_secret_congr
  continues_unchecked := nofun
  unchecked_congr _ := rfl
  grows := nofun
  rests := nofun
  swaps := nofun

lemma continues_numbered {s : SequenceState} {g : NumberedGroup} {b : Bool} (h : Track.numbered.continues s g = .ok b) :
    b = true ↔ decide (g.first = 0) = true ∨ g.first.toInt = s.seq.toInt + 1 := by
  simp only [Track.numbered] at h
  split at h
  · next h0 =>
    cases h
    simp [h0]
  · next h0 =>
    obtain ⟨n, hn, h⟩ := bind_ok h
    obtain ⟨-, rfl⟩ := Counter.check_eq_ok_iff.mp hn
    cases h
    simp [h0]

lemma next_numbered (s : SequenceState) (g : NumberedGroup) :
    (Track.numbered.advance s g).seq.toInt + 1 = max (s.seq.toInt + 1) (g.last.toInt + 1) := by
  simp only [Track.numbered, Counter.toInt_max]
  omega

def numbered : Line Track.numbered where
  next s := s.seq.toInt + 1
  first g := g.first.toInt
  past g := g.last.toInt + 1
  unchecked g := decide (g.first = 0)
  continues_iff := continues_numbered
  covered_iff := by simp [Track.numbered, Int32.le_iff_toInt_le]
  continues_congr h g := by simp only [Track.numbered, h]
  continues_unchecked h s := if_pos (of_decide_eq_true h)
  unchecked_congr h := by simp only [Int32.toInt_inj.mp h]
  grows _ s h := (next_numbered s h).symm ▸ Int.le_max_left ..
  rests _ s h := (next_numbered s _).trans (Int.max_eq_left h)
  swaps _ s h := by simp only [Track.numbered, max_right_comm]

end Line

end Track

end AccountReplica
