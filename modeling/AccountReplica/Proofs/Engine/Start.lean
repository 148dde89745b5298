import AccountReplica.Proofs.Engine.Announcements
import AccountReplica.Proofs.Engine.Queue

/-! Starting operations comes to an end: a pass that goes on uses up an operation, or moves the
completion poll behind the others. -/

namespace AccountReplica

def Effect.IsNews : Effect → Prop
  | publish _ | sink _ | sendWebpage .. | sendNearby .. => True
  | _ => False

namespace Engine

def Tells (e e' : Engine) : Prop :=
  ∃ xs, e' = { e with effects := e.effects ++ xs } ∧ ∀ x ∈ xs, x.IsNews

namespace Tells

variable {e e' e'' : Engine}

lemma refl (e : Engine) : e.Tells e :=
  ⟨[], by simp, by simp⟩

lemma emit {x : Effect} (hx : x.IsNews) : e.Tells (e.emit x) :=
  ⟨[x], rfl, by simpa using hx⟩

lemma publishList {α : Type} (p : List α → Publication) (as : List α) : e.Tells (e.publishList p as) := by
  cases as with
  | nil => exact refl e
  | cons a as => exact emit trivial

end Tells

lemma tells_announce (e : Engine) (ev : EventSet) : e.Tells (e.announce ev) := by
  refine ⟨e.announcements ev, announce_eq e ev, fun x hx => ?_⟩
  have ha := announces_of_mem hx
  cases x <;> trivial

end Engine

structure Startable (ops : List Operation) : Prop where
  idle : ∀ op ∈ ops, op.running = false
  completions : kindCount .pollCompletion ops ≤ 1

def defers : List Operation → Nat
  | [] => 0
  | op :: rest => if op.content.kind = .pollCompletion then min 1 rest.length else defers rest

def passesLeft (ops : List Operation) : Nat :=
  ops.countP (fun op => op.content.kind = .processEvents || op.content.kind = .custom) + defers ops

lemma defers_le_one (ops : List Operation) : defers ops ≤ 1 := by
  induction ops with
  | nil => exact Nat.zero_le 1
  | cons op rest ih =>
    simp only [defers]
    split
    · exact Nat.min_le_left 1 _
    · exact ih

lemma defers_concat {ops : List Operation} (h : kindCount .pollCompletion ops = 0) (op : Operation) :
    defers (ops ++ [op]) = 0 := by
  induction ops with
  | nil => simp [defers]
  | cons op' rest ih =>
    rw [kindCount_cons] at h
    rw [List.cons_append]
    simp only [defers]
    split
    · next hk => simp [hk] at h
    · exact ih (by omega)

namespace Startable

variable {op : Operation} {rest : List Operation}

lemma tail (h : Startable (op :: rest)) : Startable rest where
  idle op' hm := h.idle op' (List.mem_cons_of_mem op hm)
  completions := by
    have := h.completions
    rw [kindCount_cons] at this
    omega

lemma deferred (h : Startable (op :: rest)) (id : OperationId) (hk : op.content.kind = .pollCompletion) :
    Startable (rest ++ [⟨id, op.content, false⟩]) where
  idle := by
    rw [List.forall_mem_append, List.forall_mem_singleton]
    exact ⟨h.tail.idle, rfl⟩
  completions := by
    have := h.completions
    simpa [hk] using this

lemma passesLeft_deferred (h : Startable (op :: rest)) (id : OperationId)
    (hk : op.content.kind = .pollCompletion) (hr : rest ≠ []) :
    passesLeft (rest ++ [⟨id, op.content, false⟩]) < passesLeft (op :: rest) := by
  have h0 : kindCount .pollCompletion rest = 0 := by
    have := h.completions
    simpa [hk] using this
  have hl : 0 < rest.length := List.length_pos_iff.mpr hr
  simp only [passesLeft, defers_concat h0, List.countP_append, List.countP_cons, hk, defers, if_true]
  simp
  omega

lemma passesLeft_tail (hk : op.content.kind = .processEvents ∨ op.content.kind = .custom) :
    passesLeft rest < passesLeft (op :: rest) := by
  rcases hk with hk | hk <;> simp [passesLeft, defers, hk]

end Startable

namespace Engine

lemma start_goes_on {e e' : Engine} {op : Operation} {rest : List Operation}
    (h : Startable (op :: rest)) (hs : e.start op rest = (e', true)) :
    Startable e'.queue.operations ∧ passesLeft e'.queue.operations < passesLeft (op :: rest) := by
  rw [start] at hs
  split at hs
  · cases hs
  · cases hs
  · cases hs
  · cases hs
  · next hc =>
    cases hs
    exact ⟨h.tail, Startable.passesLeft_tail (Or.inr (by rw [hc]; rfl))⟩
  · cases hs
  · next ids subscribers hc =>
    have hk : op.content.kind = .pollCompletion := by rw [hc]; rfl
    split at hs
    · cases hs
    · next hr =>
      cases hs
      rw [List.isEmpty_iff] at hr
      have hd := And.intro (h.deferred (e.drop rest).queue.nextId hk)
        (h.passesLeft_deferred (e.drop rest).queue.nextId hk hr)
      rw [hc] at hd
      exact hd
  · next events hc =>
    dsimp only at hs
    split at hs
    · cases hs
      exact ⟨h.tail, Startable.passesLeft_tail (Or.inl (by rw [hc]; rfl))⟩
    · cases hs

lemma passesLeft_lt_passBound (q : OperationQueue) : passesLeft q.operations < passBound q := by
  have := defers_le_one q.operations
  simp only [passesLeft, passBound]
  omega

/-- What becomes of an engine that starts its operations is settled by the pass that starts one for
good, and by each pass before it. -/
lemma startFirst_induct {motive : Engine → Engine → Prop}
    (rest : ∀ e, e.queue.operations = [] → motive e e)
    (starts : ∀ e op rest e', e.queue.operations = op :: rest → e.start op rest = (e', false) →
      motive e e')
    (goesOn : ∀ e op rest e' e'', e.queue.operations = op :: rest → e.start op rest = (e', true) →
      motive e' e'' → motive e e'')
    {e : Engine} (h : Startable e.queue.operations) : motive e e.startFirst := by
  have key : ∀ n (e : Engine), Startable e.queue.operations → passesLeft e.queue.operations < n →
      motive e (passes n e) := by
    intro n
    induction n with
    | zero => intro e _ hn; omega
    | succ n ih =>
      intro e h hn
      simp only [passes]
      cases hq : e.queue.operations with
      | nil => simpa [pass, hq] using rest e hq
      | cons op ops =>
        rw [hq] at h hn
        have hi := h.idle op List.mem_cons_self
        simp only [pass, hq, hi]
        cases hs : e.start op ops with
        | mk e' b =>
          cases b with
          | false => exact starts e op ops e' hq hs
          | true =>
            obtain ⟨h', hl⟩ := start_goes_on h hs
            exact goesOn e op ops e' _ hq hs (ih e' h' (by omega))
  exact key _ e h (passesLeft_lt_passBound e.queue)

lemma startFirst_keeps {R : Engine → Engine → Prop} (refl : ∀ e, R e e)
    (trans : ∀ {e e' e''}, R e e' → R e' e'' → R e e'') (start : ∀ e op rest, R e (e.start op rest).1) (e : Engine) :
    R e e.startFirst := by
  have hpass (e : Engine) : R e e.pass.1 := by
    simp only [pass]
    split
    · exact refl e
    · split
      · exact refl e
      · exact start e _ _
  have key : ∀ n (e : Engine), R e (passes n e) := by
    intro n
    induction n with
    | zero => exact refl
    | succ n ih =>
      intro e
      have h := hpass e
      simp only [passes]
      split
      · next hp =>
        rw [hp] at h
        exact trans h (ih _)
      · next hp =>
        rw [hp] at h
        exact h
  exact key _ e

lemma startFirst_of_start {e e' : Engine} {op : Operation} {rest : List Operation}
    (hq : e.queue.operations = op :: rest) (hi : op.running = false) (hs : e.start op rest = (e', false)) :
    e.startFirst = e' := by
  simp only [startFirst, passBound, passes]
  simp [pass, hq, hi, hs]

lemma passes_running {e : Engine} {op : Operation} {rest : List Operation} (hq : e.queue.operations = op :: rest)
    (hr : op.running = true) (n : Nat) : passes n e = e := by
  cases n with
  | zero => rfl
  | succ n => simp [passes, pass, hq, hr]

lemma startFirst_running {e : Engine} {op : Operation} {rest : List Operation}
    (hq : e.queue.operations = op :: rest) (hr : op.running = true) : e.startFirst = e :=
  passes_running hq hr _

lemma startFirst_rest {e : Engine} (hq : e.queue.operations = []) : e.startFirst = e := by
  simp only [startFirst, passBound, passes]
  simp [pass, hq]

end Engine

end AccountReplica
