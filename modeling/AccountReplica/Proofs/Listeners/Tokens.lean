import AccountReplica.Proofs.Listeners.Bag
import Mathlib.Data.List.Induction

/-! What the calls on a bag return, as a matter of the calls before: tokens are never handed out again, and one that
was used to remove a subscriber removes nobody else. -/

namespace AccountReplica

namespace SubscriberBag

variable {α : Type}

inductive Call (α : Type)
  | insert (a : α)
  /-- The token may be any: in use, stale, or never handed out. -/
  | remove (t : BagToken)

inductive Exchange (α : Type)
  | inserted (a : α) (t : BagToken)
  | removed (t : BagToken) (found : Option α)
deriving DecidableEq

structure Session (α : Type) where
  bag : SubscriberBag α
  history : List (Exchange α)

namespace Session

def call (s : Session α) : Call α → Session α
  | .insert a => ⟨(s.bag.insert a).2, s.history ++ [.inserted a (s.bag.insert a).1]⟩
  | .remove t =>
    match s.bag.remove t with
    | some (a, b) => ⟨b, s.history ++ [.removed t (some a)]⟩
    | none => { s with history := s.history ++ [.removed t none] }

def run (calls : List (Call α)) : Session α :=
  calls.foldl call ⟨.empty, []⟩

end Session

def Exchange.issued? : Exchange α → Option BagToken
  | inserted _ t => some t
  | removed .. => none

def Exchange.removes (t : BagToken) : Exchange α → Bool
  | inserted .. => false
  | removed t' _ => t' = t

def Exchange.vacates (i : UInt32) : Exchange α → Bool
  | removed t (some _) => t.index = i
  | _ => false

def issued (h : List (Exchange α)) : List BagToken :=
  h.filterMap Exchange.issued?

def removals (i : UInt32) (h : List (Exchange α)) : Nat :=
  h.countP (Exchange.vacates i)

/-- What was inserted, unless its token was used for a removal later. -/
def live : List (Exchange α) → List (BagToken × α)
  | [] => []
  | .inserted a t :: h => if h.any (Exchange.removes t) then live h else (t, a) :: live h
  | .removed .. :: h => live h

lemma live_inserted (h : List (Exchange α)) (a : α) (t : BagToken) :
    live (h ++ [.inserted a t]) = live h ++ [(t, a)] := by
  induction h with
  | nil => rfl
  | cons x h ih =>
    cases x with
    | inserted a' t' =>
      simp only [List.cons_append, live, List.any_append, List.any_cons, Exchange.removes, List.any_nil, Bool.or_false,
        ih]
      split <;> rfl
    | removed => exact ih

lemma live_removed (h : List (Exchange α)) (t : BagToken) (found : Option α) :
    live (h ++ [.removed t found]) = (live h).filter (·.1 ≠ t) := by
  induction h with
  | nil => rfl
  | cons x h ih =>
    cases x with
    | inserted a' t' =>
      simp only [List.cons_append, live, List.any_append, List.any_cons, Exchange.removes, List.any_nil, Bool.or_false,
        ih, Bool.or_eq_true, decide_eq_true_eq]
      by_cases ht : t = t'
      · subst ht
        by_cases hr : h.any (Exchange.removes t) = true <;> simp [hr]
      · by_cases hr : h.any (Exchange.removes t') = true <;> simp [hr, ht, Ne.symm ht]
    | removed => exact ih

lemma issued_inserted (h : List (Exchange α)) (a : α) (t : BagToken) :
    issued (h ++ [.inserted a t]) = issued h ++ [t] := by
  simp [issued, Exchange.issued?]

lemma issued_removed (h : List (Exchange α)) (t : BagToken) (found : Option α) :
    issued (h ++ [.removed t found]) = issued h := by
  simp [issued, Exchange.issued?]

lemma removals_inserted (i : UInt32) (h : List (Exchange α)) (a : α) (t : BagToken) :
    removals i (h ++ [.inserted a t]) = removals i h := by
  simp [removals, Exchange.vacates]

lemma removals_removed (i : UInt32) (h : List (Exchange α)) (t : BagToken) (a : α) :
    removals i (h ++ [.removed t (some a)]) = removals i h + if t.index = i then 1 else 0 := by
  simp [removals, Exchange.vacates]

lemma removals_missed (i : UInt32) (h : List (Exchange α)) (t : BagToken) :
    removals i (h ++ [.removed t none]) = removals i h := by
  simp [removals, Exchange.vacates]

namespace Session

variable {s : Session α}

/-- The numbers of the slots and their generations have not come round. -/
structure Fits (s : Session α) : Prop where
  slots : s.bag.slots.length < 2 ^ 32
  removals : ∀ i, removals i s.history < 2 ^ 32

structure Tracks (s : Session α) : Prop where
  sound : s.bag.Sound
  entries : s.bag.entries.Perm (live s.history)
  generation : ∀ i, (s.bag.generationAt i).toNat = removals i s.history
  stale : ∀ t ∈ issued s.history, t ∉ (live s.history).map (·.1) → t.generation.toNat < removals t.index s.history
  nodup : (issued s.history).Nodup

lemma Fits.before {c : Call α} (h : (s.call c).Fits) : s.Fits := by
  cases c with
  | insert a =>
    refine ⟨Nat.lt_of_le_of_lt ?_ h.slots, fun i => ?_⟩
    · simp only [call, SubscriberBag.insert]
      split <;> simp
    · have hr := h.removals i
      rwa [call, removals_inserted] at hr
  | remove t =>
    cases hr : s.bag.remove t with
    | none =>
      simp only [call, hr] at h
      refine ⟨h.slots, fun i => ?_⟩
      have hr := h.removals i
      rwa [removals_missed] at hr
    | some x =>
      obtain ⟨a, b⟩ := x
      simp only [call, hr] at h
      refine ⟨?_, fun i => ?_⟩
      · obtain ⟨-, rfl⟩ := remove_eq_some.mp hr
        simpa only [List.length_set] using h.slots
      · have hr := h.removals i
        rw [removals_removed] at hr
        omega

namespace Tracks

lemma empty : (⟨.empty, []⟩ : Session α).Tracks :=
  ⟨sound_empty, .nil, fun _ => rfl, List.forall_mem_nil _, .nil⟩

lemma fresh (h : s.Tracks) (hf : s.Fits) (a : α) : (s.bag.insert a).1 ∉ issued s.history := by
  intro hm
  have hn : (s.bag.insert a).1 ∉ (live s.history).map (·.1) := by
    rw [← (h.entries.map (·.1)).mem_iff]
    exact h.sound.fresh hf.slots a
  have hlt := h.stale _ hm hn
  rw [← h.generation, ← (generationAt_insert h.sound hf.slots a).1] at hlt
  exact Nat.lt_irrefl _ hlt

lemma mem_live (h : s.Tracks) (hf : s.Fits) {t : BagToken} {a : α} :
    (t, a) ∈ live s.history ↔ ∃ b, s.bag.remove t = some (a, b) := by
  rw [← h.entries.mem_iff]
  exact mem_entries (Nat.le_of_lt hf.slots)

lemma inserted (h : s.Tracks) (hf : s.Fits) (a : α) : (s.call (.insert a)).Tracks := by
  obtain ⟨xs, ys, he, he'⟩ := h.sound.entries_insert a
  have hn := h.fresh hf a
  refine ⟨h.sound.insert a, ?_, fun i => ?_, ?_, ?_⟩
  · rw [call, live_inserted, he']
    refine List.perm_middle.trans ?_
    rw [← he]
    exact (h.entries.cons _).trans (List.perm_append_singleton _ _).symm
  · rw [call, removals_inserted, (generationAt_insert h.sound hf.slots a).2, h.generation]
  · rw [call, issued_inserted, live_inserted]
    intro t hm hl
    rw [List.map_append, List.mem_append, not_or] at hl
    rw [removals_inserted]
    rcases List.mem_append.mp hm with hm | hm
    · exact h.stale t hm hl.1
    · exact absurd hm hl.2
  · rw [call, issued_inserted]
    exact List.nodup_append.mpr ⟨h.nodup, List.nodup_singleton _, fun t ht t' ht' he =>
      hn (List.mem_singleton.mp ht' ▸ he ▸ ht)⟩

lemma found (h : s.Tracks) (hf : s.Fits) {t : BagToken} {a : α} {b : SubscriberBag α}
    (hr : s.bag.remove t = some (a, b)) (hf' : ∀ i, removals i (s.history ++ [.removed t (some a)]) < 2 ^ 32) :
    (⟨b, s.history ++ [.removed t (some a)]⟩ : Session α).Tracks := by
  obtain ⟨xs, ys, he, he'⟩ := entries_remove hr
  obtain ⟨hg, hg', hne⟩ := generationAt_remove hr
  refine ⟨h.sound.remove hr, ?_, fun i => ?_, ?_, ?_⟩
  · have hn := nodup_tokens (Nat.le_of_lt hf.slots)
    rw [he, List.map_append, List.map_cons, List.nodup_middle, ← List.map_append] at hn
    have hout : ∀ x ∈ xs ++ ys, x.1 ≠ t := fun x hx hxt =>
      (List.nodup_cons.mp hn).1 (List.mem_map.mpr ⟨x, hx, hxt⟩)
    have hp := h.entries.filter (·.1 ≠ t)
    rw [he, List.filter_append, List.filter_cons_of_neg (by simp), ← List.filter_append,
      List.filter_eq_self.mpr (by simpa using hout)] at hp
    rw [live_removed, he']
    exact hp
  · have hi := hf' i
    rw [removals_removed] at hi ⊢
    split
    · next ht =>
      subst ht
      have hs := h.generation t.index
      rw [if_pos rfl] at hi
      rw [hg] at hs
      rw [hg', UInt32.toNat_add, hs]
      exact Nat.mod_eq_of_lt hi
    · next ht => rw [hne i (Ne.symm ht), h.generation, Nat.add_zero]
  · rw [issued_removed, live_removed]
    intro t' hm hl
    rw [removals_removed]
    by_cases ht : t' = t
    · subst ht
      rw [if_pos rfl, ← h.generation, hg]
      exact Nat.lt_succ_self _
    · refine Nat.lt_add_right _ (h.stale t' hm fun hl' => hl ?_)
      obtain ⟨x, hx, rfl⟩ := List.mem_map.mp hl'
      exact List.mem_map.mpr ⟨x, List.mem_filter.mpr ⟨hx, by simpa using ht⟩, rfl⟩
  · rw [issued_removed]
    exact h.nodup

lemma missed (h : s.Tracks) (hf : s.Fits) {t : BagToken} (hr : s.bag.remove t = none) :
    ({ s with history := s.history ++ [.removed t none] } : Session α).Tracks := by
  have hl : live (s.history ++ [.removed t none]) = live s.history := by
    rw [live_removed]
    refine List.filter_eq_self.mpr fun x hx => ?_
    have hne : x.1 ≠ t := by
      rintro rfl
      obtain ⟨b, hb⟩ := (h.mem_live hf).mp hx
      rw [hr] at hb
      cases hb
    simpa using hne
  refine ⟨h.sound, by rw [hl]; exact h.entries, fun i => ?_, fun t' hm ht => ?_, ?_⟩
  · rw [removals_missed]
    exact h.generation i
  · rw [issued_removed] at hm
    rw [hl] at ht
    rw [removals_missed]
    exact h.stale t' hm ht
  · rw [issued_removed]
    exact h.nodup

lemma call {c : Call α} (h : s.Tracks) (hf : (s.call c).Fits) : (s.call c).Tracks := by
  cases c with
  | insert a => exact h.inserted hf.before a
  | remove t =>
    cases hr : s.bag.remove t with
    | none =>
      simp only [Session.call, hr]
      exact h.missed hf.before hr
    | some x =>
      obtain ⟨a, b⟩ := x
      have hf' := hf.removals
      simp only [Session.call, hr] at hf' ⊢
      exact h.found hf.before hr hf'

end Tracks

lemma tracks_run {calls : List (Call α)} (hf : (run calls).Fits) : (run calls).Tracks := by
  induction calls using List.reverseRecOn with
  | nil => exact .empty
  | append_singleton calls c ih =>
    have hr : run (calls ++ [c]) = (run calls).call c := by simp [run]
    rw [hr] at hf ⊢
    exact (ih hf.before).call hf

/-- What the bag shows, and what the next call does, is a matter of what was inserted and not removed since. -/
structure Refines (s : Session α) : Prop where
  distinct : (issued s.history).Nodup
  fresh : ∀ a, (s.bag.insert a).1 ∉ issued s.history
  finds : ∀ t a, (∃ b, s.bag.remove t = some (a, b)) ↔ (t, a) ∈ live s.history
  misses : ∀ t, (∀ a, (t, a) ∉ live s.history) → s.bag.remove t = none ∧ (s.call (.remove t)).bag = s.bag
  values : s.bag.values.Perm ((live s.history).map (·.2))
  size : s.bag.size = (live s.history).length
  occupied : s.bag.size = s.bag.slots.countP (·.value.isSome)
  isEmpty : s.bag.isEmpty = true ↔ live s.history = []

theorem refines_of_calls (calls : List (Call α)) (h : (run calls).Fits) : (run calls).Refines := by
  have ht := tracks_run h
  refine
    { distinct := ht.nodup
      fresh := ht.fresh h
      finds := fun t a => (ht.mem_live h).symm
      misses := fun t hn => ?_
      values := ?_
      size := ?_
      occupied := ht.sound.size
      isEmpty := ?_ }
  · have hr : (run calls).bag.remove t = none := by
      cases hr : (run calls).bag.remove t with
      | none => rfl
      | some x => exact absurd ((ht.mem_live h).mpr ⟨x.2, hr⟩) (hn x.1)
    exact ⟨hr, by rw [Session.call, hr]⟩
  · rw [values_eq]
    exact ht.entries.map (·.2)
  · rw [ht.sound.length]
    exact ht.entries.length_eq
  · rw [ht.sound.isEmpty_iff, ← List.length_eq_zero_iff, ← List.length_eq_zero_iff, ht.entries.length_eq]

/-- Slot 0 is used a second and a third time; its first token comes again, twice, a foreign one hits the vacant slot
at its generation, and others name a generation that is to come or a slot that there is not. -/
def sampleCalls : List (Call String) :=
  [.insert "a", .insert "b", .remove ⟨0, 0⟩, .remove ⟨0, 0⟩, .remove ⟨0, 1⟩, .insert "c", .remove ⟨0, 0⟩,
    .remove ⟨0, 2⟩, .remove ⟨5, 0⟩, .remove ⟨0, 1⟩, .insert "d"]

theorem refines_of_sampleCalls : (run sampleCalls).Fits ∧ (run sampleCalls).Refines := by
  have h : (run sampleCalls).Fits := by
    refine ⟨by decide, fun i => Nat.lt_of_le_of_lt List.countP_le_length ?_⟩
    decide
  exact ⟨h, refines_of_calls sampleCalls h⟩

example : live (run sampleCalls).history = [(⟨1, 0⟩, "b"), (⟨0, 2⟩, "d")] := by
  decide

end Session

end SubscriberBag

end AccountReplica
