import AccountReplica.SubscriberBag
import Mathlib.Algebra.Ring.Nat
import Mathlib.Data.List.Nodup
import Mathlib.Tactic.Common

/-! A bag of subscribers as a table from tokens to values: a token finds what was inserted under it until that is
removed, and finds nothing else at any time. -/

namespace AccountReplica

namespace SubscriberBag

variable {α : Type} {b b' : SubscriberBag α} {a : α} {t : BagToken}

def entriesFrom (n : Nat) : List (Slot α) → List (BagToken × α)
  | [] => []
  | s :: slots => (s.value.map (⟨.ofNat n, s.generation⟩, ·)).toList ++ entriesFrom (n + 1) slots

def entries (b : SubscriberBag α) : List (BagToken × α) :=
  entriesFrom 0 b.slots

lemma entriesFrom_append (n : Nat) (xs ys : List (Slot α)) :
    entriesFrom n (xs ++ ys) = entriesFrom n xs ++ entriesFrom (n + xs.length) ys := by
  induction xs generalizing n with
  | nil => rfl
  | cons s xs ih =>
    rw [List.cons_append, entriesFrom, entriesFrom, ih, List.append_assoc, List.length_cons]
    congr 3
    omega

lemma entriesFrom_set {slots : List (Slot α)} {i : Nat} (hi : i < slots.length) (n : Nat) :
    ∃ xs ys, ∀ s : Slot α, entriesFrom n (slots.set i s) =
      xs ++ ((s.value.map (⟨.ofNat (n + i), s.generation⟩, ·)).toList ++ ys) := by
  refine ⟨entriesFrom n (slots.take i), entriesFrom (n + i + 1) (slots.drop (i + 1)), fun s => ?_⟩
  have hl : (slots.take i).length = i := List.length_take_of_le (Nat.le_of_lt hi)
  rw [List.set_eq_take_append_cons_drop, if_pos hi, entriesFrom_append, entriesFrom, hl]

lemma map_snd_entriesFrom (n : Nat) (slots : List (Slot α)) :
    (entriesFrom n slots).map (·.2) = slots.filterMap (·.value) := by
  induction slots generalizing n with
  | nil => rfl
  | cons s slots ih =>
    rw [entriesFrom, List.map_append, ih]
    cases hs : s.value <;> simp [hs]

lemma values_eq (b : SubscriberBag α) : b.values = b.entries.map (·.2) :=
  (map_snd_entriesFrom 0 b.slots).symm

lemma length_entries (b : SubscriberBag α) : b.entries.length = b.slots.countP (·.value.isSome) := by
  rw [← List.length_map (·.2), ← values_eq, values, List.length_filterMap_eq_countP]

lemma mem_entriesFrom {n : Nat} {slots : List (Slot α)} :
    (t, a) ∈ entriesFrom n slots ↔ ∃ i, slots[i]? = some ⟨t.generation, some a⟩ ∧ t.index = .ofNat (n + i) := by
  induction slots generalizing n with
  | nil => simp [entriesFrom]
  | cons s slots ih =>
    rw [entriesFrom, List.mem_append, ih]
    constructor
    · rintro (h | ⟨i, hi, ht⟩)
      · obtain ⟨a', hs, he⟩ := Option.map_eq_some_iff.mp (Option.mem_toList.mp h)
        cases he
        exact ⟨0, by rw [List.getElem?_cons_zero, ← hs], rfl⟩
      · exact ⟨i + 1, by rw [List.getElem?_cons_succ, hi], by rw [ht]; congr 1; omega⟩
    · rintro ⟨i, hi, ht⟩
      cases i with
      | zero =>
        cases hi
        exact .inl (Option.mem_toList.mpr (by rw [← Nat.add_zero n, ← ht]; rfl))
      | succ i => exact .inr ⟨i, by rwa [List.getElem?_cons_succ] at hi, by rw [ht]; congr 1; omega⟩

lemma nodup_tokens (h : b.slots.length ≤ 2 ^ 32) : (b.entries.map (·.1)).Nodup := by
  have key : ∀ (slots : List (Slot α)) n, n + slots.length ≤ 2 ^ 32 →
      (∀ x ∈ entriesFrom n slots, n ≤ x.1.index.toNat) ∧ ((entriesFrom n slots).map (·.1)).Nodup := by
    intro slots
    induction slots with
    | nil => exact fun n _ => ⟨List.forall_mem_nil _, .nil⟩
    | cons s slots ih =>
      intro n hn
      rw [List.length_cons] at hn
      obtain ⟨hle, hd⟩ := ih (n + 1) (by omega)
      have htn : (UInt32.ofNat n).toNat = n := UInt32.toNat_ofNat_of_lt' (by simp [UInt32.size]; omega)
      cases hs : s.value with
      | none =>
        simp only [entriesFrom, hs, Option.map_none, Option.toList_none, List.nil_append]
        exact ⟨fun x hx => Nat.le_of_succ_le (hle x hx), hd⟩
      | some a =>
        simp only [entriesFrom, hs, Option.map_some, Option.toList_some, List.cons_append, List.nil_append,
          List.map_cons, List.nodup_cons, List.forall_mem_cons]
        refine ⟨⟨Nat.le_of_eq htn.symm, fun x hx => Nat.le_of_succ_le (hle x hx)⟩, fun hm => ?_, hd⟩
        obtain ⟨x, hx, he⟩ := List.mem_map.mp hm
        have := hle x hx
        rw [he, htn] at this
        omega
  exact (key b.slots 0 (by omega)).2

structure Sound (b : SubscriberBag α) : Prop where
  nodup : b.free.Nodup
  vacant : ∀ i, i ∈ b.free ↔ ∃ g, b.slots[i.toNat]? = some ⟨g, none⟩
  size : b.size = b.slots.countP (·.value.isSome)

/-- What an insertion can do: it takes the vacant slot that was freed last, or adds a slot. -/
inductive Inserts (b : SubscriberBag α) (a : α) : BagToken × SubscriberBag α → Prop
  | reused (i : UInt32) (g : UInt32) (free : List UInt32) (hf : b.free = i :: free)
      (hs : b.slots[i.toNat]? = some ⟨g, none⟩) :
      Inserts b a (⟨i, g⟩, ⟨b.slots.set i.toNat ⟨g, some a⟩, free, b.size + 1⟩)
  | added (hf : b.free = []) :
      Inserts b a (⟨.ofNat b.slots.length, 0⟩, ⟨b.slots ++ [⟨0, some a⟩], [], b.size + 1⟩)

lemma Sound.inserts (h : b.Sound) (a : α) : b.Inserts a (b.insert a) := by
  simp only [insert]
  split
  · next i free hf =>
    obtain ⟨g, hs⟩ := (h.vacant i).mp (by rw [hf]; exact List.mem_cons_self)
    have hg : b.generationAt i = g := by simp [generationAt, hs]
    rw [hg]
    exact .reused i g free hf hs
  · next hf => exact .added hf

lemma remove_eq_some : b.remove t = some (a, b') ↔ b.slots[t.index.toNat]? = some ⟨t.generation, some a⟩ ∧
    b' = ⟨b.slots.set t.index.toNat ⟨t.generation + 1, none⟩, t.index :: b.free, b.size - 1⟩ := by
  simp only [remove]
  constructor
  · intro h
    split at h
    · cases h
    · next slot hs =>
      split at h
      · cases h
      · next a' ha =>
        split at h
        · next hg =>
          cases h
          obtain ⟨g, v⟩ := slot
          cases hg
          cases ha
          exact ⟨hs, rfl⟩
        · cases h
  · rintro ⟨hs, rfl⟩
    simp [hs]

lemma sound_empty : (empty : SubscriberBag α).Sound :=
  ⟨.nil, by simp [empty], rfl⟩

lemma Sound.insert (h : b.Sound) (a : α) : (b.insert a).2.Sound := by
  have hx := h.inserts a
  generalize b.insert a = x at hx ⊢
  cases hx with
  | reused i g free hf hs =>
    have hn := h.nodup
    rw [hf, List.nodup_cons] at hn
    have hi : i.toNat < b.slots.length := (List.getElem?_eq_some_iff.mp hs).1
    refine ⟨hn.2, fun j => ?_, ?_⟩
    · by_cases hj : i = j
      · subst hj
        simp [hn.1, hi]
      · have hne : i.toNat ≠ j.toNat := fun he => hj (UInt32.toNat_inj.mp he)
        have hv := h.vacant j
        rw [hf, List.mem_cons] at hv
        simp only [List.getElem?_set_ne hne, ← hv, Ne.symm hj, false_or]
    · have hg : b.slots[i.toNat] = ⟨g, none⟩ := (List.getElem?_eq_some_iff.mp hs).2
      simp [List.countP_set hi, hg, h.size]
  | added hf =>
    refine ⟨.nil, fun j => ?_, by simp [h.size]⟩
    have hv := h.vacant j
    rw [hf] at hv
    constructor
    · rintro ⟨⟩
    · rintro ⟨g, hg⟩
      rw [List.getElem?_append] at hg
      split at hg
      · exact hv.mpr ⟨g, hg⟩
      · rw [List.getElem?_singleton] at hg
        split at hg <;> cases hg

lemma Sound.remove (h : b.Sound) (hr : b.remove t = some (a, b')) : b'.Sound := by
  obtain ⟨hs, rfl⟩ := remove_eq_some.mp hr
  have hi : t.index.toNat < b.slots.length := (List.getElem?_eq_some_iff.mp hs).1
  have hf : t.index ∉ b.free := by
    rw [h.vacant, hs]
    rintro ⟨g, hg⟩
    cases hg
  refine ⟨List.nodup_cons.mpr ⟨hf, h.nodup⟩, fun j => ?_, ?_⟩
  · by_cases hj : t.index = j
    · subst hj
      simp [hi]
    · have hne : t.index.toNat ≠ j.toNat := fun he => hj (UInt32.toNat_inj.mp he)
      simp only [List.getElem?_set_ne hne, ← h.vacant, List.mem_cons, Ne.symm hj, false_or]
  · have hg : b.slots[t.index.toNat] = ⟨t.generation, some a⟩ := (List.getElem?_eq_some_iff.mp hs).2
    simp [List.countP_set hi, hg, h.size]

lemma Sound.length (h : b.Sound) : b.size = b.entries.length :=
  h.size.trans b.length_entries.symm

lemma Sound.entries_insert (h : b.Sound) (a : α) : ∃ xs ys, b.entries = xs ++ ys ∧
    (b.insert a).2.entries = xs ++ ((b.insert a).1, a) :: ys := by
  have hx := h.inserts a
  generalize b.insert a = x at hx ⊢
  cases hx with
  | reused i g free hf hs =>
    obtain ⟨hi, hg⟩ := List.getElem?_eq_some_iff.mp hs
    obtain ⟨xs, ys, he⟩ := entriesFrom_set hi 0
    have hb := he ⟨g, none⟩
    rw [← hg, List.set_getElem_self] at hb
    refine ⟨xs, ys, ?_, ?_⟩
    · rw [entries, hb, hg]
      rfl
    · rw [entries, he, Nat.zero_add, UInt32.ofNat_toNat]
      rfl
  | added hf => exact ⟨b.entries, [], (List.append_nil _).symm, by simp [entries, entriesFrom_append, entriesFrom]⟩

lemma entries_remove (hr : b.remove t = some (a, b')) :
    ∃ xs ys, b.entries = xs ++ (t, a) :: ys ∧ b'.entries = xs ++ ys := by
  obtain ⟨hs, rfl⟩ := remove_eq_some.mp hr
  obtain ⟨hi, hg⟩ := List.getElem?_eq_some_iff.mp hs
  obtain ⟨xs, ys, he⟩ := entriesFrom_set hi 0
  have hb := he ⟨t.generation, some a⟩
  rw [← hg, List.set_getElem_self] at hb
  refine ⟨xs, ys, ?_, ?_⟩
  · rw [entries, hb, hg, Nat.zero_add, UInt32.ofNat_toNat]
    rfl
  · rw [entries, he]
    rfl

lemma mem_entries (h : b.slots.length ≤ 2 ^ 32) : (t, a) ∈ b.entries ↔ ∃ b', b.remove t = some (a, b') := by
  constructor
  · intro hm
    obtain ⟨i, hi, ht⟩ := mem_entriesFrom.mp hm
    have hlt := (List.getElem?_eq_some_iff.mp hi).1
    have htn : t.index.toNat = i := by
      rw [ht, Nat.zero_add, UInt32.toNat_ofNat_of_lt' (by simp [UInt32.size]; omega)]
    exact ⟨_, remove_eq_some.mpr ⟨htn ▸ hi, rfl⟩⟩
  · rintro ⟨b', hr⟩
    obtain ⟨xs, ys, he, -⟩ := entries_remove hr
    simp [he]

lemma Sound.isEmpty_iff (h : b.Sound) : b.isEmpty = true ↔ b.entries = [] := by
  simp [isEmpty, h.length]

lemma Sound.fresh (h : b.Sound) (hl : b.slots.length < 2 ^ 32) (a : α) :
    (b.insert a).1 ∉ b.entries.map (·.1) := by
  obtain ⟨xs, ys, he, he'⟩ := h.entries_insert a
  have hl' : (b.insert a).2.slots.length ≤ 2 ^ 32 := by
    have hx := h.inserts a
    generalize b.insert a = x at hx
    cases hx with
    | reused => simpa only [List.length_set] using Nat.le_of_lt hl
    | added => simpa only [List.length_append, List.length_singleton] using Nat.succ_le_of_lt hl
  have hn := nodup_tokens hl'
  rw [he', List.map_append, List.map_cons, List.nodup_middle] at hn
  rw [he, List.map_append]
  exact (List.nodup_cons.mp hn).1

lemma generationAt_insert (h : b.Sound) (hl : b.slots.length < 2 ^ 32) (a : α) :
    (b.insert a).1.generation = b.generationAt (b.insert a).1.index ∧
      ∀ i, (b.insert a).2.generationAt i = b.generationAt i := by
  have hx := h.inserts a
  generalize b.insert a = x at hx ⊢
  cases hx with
  | reused i g free hf hs =>
    obtain ⟨hi, hg⟩ := List.getElem?_eq_some_iff.mp hs
    refine ⟨by simp [generationAt, hs], fun j => ?_⟩
    by_cases hj : i.toNat = j.toNat
    · simp [generationAt, ← hj, hi, hg]
    · simp [generationAt, List.getElem?_set_ne hj]
  | added hf =>
    have hn : (UInt32.ofNat b.slots.length).toNat = b.slots.length :=
      UInt32.toNat_ofNat_of_lt' (by simp [UInt32.size]; omega)
    refine ⟨by simp [generationAt, hn], fun j => ?_⟩
    simp only [generationAt, List.getElem?_append]
    split
    · rfl
    · next hj => cases hk : j.toNat - b.slots.length <;> simp [List.getElem?_eq_none (Nat.le_of_not_lt hj)]

lemma generationAt_remove (hr : b.remove t = some (a, b')) : b.generationAt t.index = t.generation ∧
    b'.generationAt t.index = t.generation + 1 ∧ ∀ i, i ≠ t.index → b'.generationAt i = b.generationAt i := by
  obtain ⟨hs, rfl⟩ := remove_eq_some.mp hr
  obtain ⟨hi, -⟩ := List.getElem?_eq_some_iff.mp hs
  refine ⟨by simp [generationAt, hs], by simp [generationAt, hi], fun i hne => ?_⟩
  have hne' : t.index.toNat ≠ i.toNat := fun he => hne (UInt32.toNat_inj.mp he).symm
  simp [generationAt, List.getElem?_set_ne hne']

lemma Sound.length_of_full (h : b.Sound) (hl : b.slots.length ≤ 2 ^ 32) (hf : b.free = []) :
    b.slots.length = b.entries.length := by
  rw [length_entries, eq_comm, List.countP_eq_length]
  intro s hs
  obtain ⟨i, hi, rfl⟩ := List.mem_iff_getElem.mp hs
  have hn : (UInt32.ofNat i).toNat = i := UInt32.toNat_ofNat_of_lt' (by simp [UInt32.size]; omega)
  have hv := h.vacant (.ofNat i)
  rw [hf, hn, List.getElem?_eq_getElem hi] at hv
  cases hg : b.slots[i] with
  | mk g v =>
    cases v with
    | none => cases hv.mpr ⟨g, by rw [hg]⟩
    | some a => rfl

/-- Those in the table, and nobody else, are in the bag under these tokens, and the numbers fit. -/
structure Holds (b : SubscriberBag α) (table : List (BagToken × α)) : Prop where
  sound : b.Sound
  room : b.slots.length ≤ 2 ^ 32
  entries : b.entries.Perm table

namespace Holds

variable {table table' : List (BagToken × α)}

lemma empty : (empty : SubscriberBag α).Holds [] :=
  ⟨sound_empty, Nat.zero_le _, .nil⟩

lemma perm (h : b.Holds table) (hp : table.Perm table') : b.Holds table' :=
  ⟨h.sound, h.room, h.entries.trans hp⟩

lemma insert (h : b.Holds table) (hl : table.length < 2 ^ 32) (a : α) :
    (b.insert a).2.Holds (((b.insert a).1, a) :: table) where
  sound := h.sound.insert a
  room := by
    have hx := h.sound.inserts a
    generalize b.insert a = x at hx ⊢
    cases hx with
    | reused => simpa only [List.length_set] using h.room
    | added hf =>
      rw [← h.entries.length_eq, ← h.sound.length_of_full h.room hf] at hl
      simpa only [List.length_append, List.length_singleton] using Nat.succ_le_of_lt hl
  entries := by
    obtain ⟨xs, ys, he, he'⟩ := h.sound.entries_insert a
    rw [he']
    exact List.perm_middle.trans (.cons _ (he ▸ h.entries))

lemma remove (h : b.Holds ((t, a) :: table)) : ∃ b', b.remove t = some (a, b') ∧ b'.Holds table := by
  obtain ⟨b', hr⟩ := (mem_entries h.room).mp (h.entries.mem_iff.mpr List.mem_cons_self)
  refine ⟨b', hr, h.sound.remove hr, ?_, ?_⟩
  · rw [(remove_eq_some.mp hr).2]
    simpa only [List.length_set] using h.room
  · obtain ⟨xs, ys, he, he'⟩ := entries_remove hr
    have hp := h.entries
    rw [he] at hp
    rw [he']
    exact (List.perm_middle.symm.trans hp).cons_inv

lemma isEmpty_iff (h : b.Holds table) : b.isEmpty = true ↔ table = [] := by
  rw [h.sound.isEmpty_iff, ← List.length_eq_zero_iff, ← List.length_eq_zero_iff, h.entries.length_eq]

end Holds

end SubscriberBag

end AccountReplica
