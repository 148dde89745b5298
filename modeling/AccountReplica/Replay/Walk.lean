import AccountReplica.Replay.Apply

/-! Walking the groups of one counter in order: each group is applied, skipped, or held back together
with all that follow it. -/

namespace AccountReplica

structure Track (γ : Type) where
  updates : γ → List Update
  /-- Does the group start right behind the counter? -/
  continues : SequenceState → γ → Except Overflow Bool
  /-- Does the group end at or below the counter? -/
  covered : SequenceState → γ → Bool
  advance : SequenceState → γ → SequenceState
  tell : γ → EventSet → EventSet

structure Verdicts (γ : Type) where
  applied : List γ
  skipped : List γ
  held : List γ
deriving DecidableEq

structure Walk (γ : Type) where
  verdicts : Verdicts γ
  state : SequenceState
  progress : Progress

namespace Walk

def apply {γ : Type} (g : γ) (w : Walk γ) : Walk γ :=
  { w with verdicts := { w.verdicts with applied := g :: w.verdicts.applied } }

def skip {γ : Type} (g : γ) (w : Walk γ) : Walk γ :=
  { w with verdicts := { w.verdicts with skipped := g :: w.verdicts.skipped } }

end Walk

namespace Track

variable {γ : Type}

def applyGroup (t : Track γ) (g : γ) (p : Progress) : Except Failure Progress := do
  let p ← p.updates (t.updates g)
  return { p with events := t.tell g p.events }

def walk (t : Track γ) : List γ → SequenceState → Progress → Except Failure (Walk γ)
  | [], s, p => .ok ⟨⟨[], [], []⟩, s, p⟩
  | g :: gs, s, p =>
    match t.continues s g with
    | .error o => .error (.overflow o)
    | .ok true => do
      let p ← t.applyGroup g p
      let w ← t.walk gs (t.advance s g) p
      return w.apply g
    | .ok false =>
      if t.covered s g then do
        let w ← t.walk gs s p
        return w.skip g
      else .ok ⟨⟨[], [], g :: gs⟩, s, p⟩

end Track

end AccountReplica
