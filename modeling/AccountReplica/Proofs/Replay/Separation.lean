import AccountReplica.Proofs.Replay.Merging

/-! Event sets that share nothing can be merged in either order, and a merge is empty only if there was nothing to
merge. -/

namespace AccountReplica

section

variable {κ β : Type} [Ord κ] [Std.TransOrd κ] [Std.LawfulEqOrd κ] {a b : Std.ExtTreeMap κ β}

lemma union_comm_of_disjoint (h : ∀ k ∈ a, k ∉ b) : a ∪ b = b ∪ a := by
  refine Std.ExtTreeMap.ext_getElem? fun k => ?_
  rw [Std.ExtTreeMap.getElem?_union, Std.ExtTreeMap.getElem?_union]
  by_cases hk : k ∈ a
  · rw [Std.ExtTreeMap.getElem?_eq_none (h k hk), Option.none_or, Option.or_none]
  · rw [Std.ExtTreeMap.getElem?_eq_none hk, Option.none_or, Option.or_none]

end

section

variable {α : Type}

lemma append_comm_of_nil {as bs : List α} (h : as = [] ∨ bs = []) : as ++ bs = bs ++ as := by
  rcases h with rfl | rfl
  · rw [List.append_nil, List.nil_append]
  · rw [List.append_nil, List.nil_append]

lemma or_comm_of_none {x y : Option α} (h : x = none ∨ y = none) : x.or y = y.or x := by
  rcases h with rfl | rfl
  · rw [Option.none_or, Option.or_none]
  · rw [Option.none_or, Option.or_none]

end

lemma largest_comm (x y : Option Int32) : largest x y = largest y x := by
  have h (n m : Int32) : max n m = max m n := by
    rw [← Int32.toInt_inj, Counter.toInt_max, Counter.toInt_max]
    exact Int.max_comm ..
  cases x <;> cases y <;> simp only [largest, h]

@[simp] lemma isNone_largest (x y : Option Int32) : (largest x y).isNone = (x.isNone && y.isNone) := by
  cases x <;> cases y <;> rfl

namespace Activities

variable {a b : Activities}

/-- A chat is left of the union even if no user is. -/
@[simp] lemma isEmpty_merge : (a.merge b).isEmpty = (a.isEmpty && b.isEmpty) := by
  rw [Bool.eq_iff_iff, Std.ExtTreeMap.isEmpty_iff, merge, Std.ExtTreeMap.map_eq_empty_iff,
    ← Std.ExtTreeMap.isEmpty_iff, Std.ExtTreeMap.isEmpty_union]

def Separate (a b : Activities) : Prop :=
  ∀ (chat : PeerId) us vs, a[chat]? = some us → b[chat]? = some vs → ∀ user ∈ us, user ∉ vs

lemma Separate.merge_comm (h : a.Separate b) : a.merge b = b.merge a := by
  refine Std.ExtTreeMap.ext_getElem? fun chat => ?_
  rw [getElem?_merge, getElem?_merge]
  cases ha : a[chat]? with
  | none => rw [Option.merge_none_left, Option.merge_none_right]
  | some us =>
    cases hb : b[chat]? with
    | none => rw [Option.merge_none_left, Option.merge_none_right]
    | some vs => exact congrArg some (union_comm_of_disjoint (h chat us vs ha hb))

end Activities

namespace EventSet

structure Separate (a b : EventSet) : Prop where
  added : a.added = [] ∨ b.added = []
  activities : a.activities.Separate b.activities
  webpages : ∀ media ∈ a.webpages, media ∉ b.webpages
  nearby : a.nearby = none ∨ b.nearby = none
  calls : a.calls = [] ∨ b.calls = []
  contacts : a.contacts = [] ∨ b.contacts = []
  alerts : a.alerts = [] ∨ b.alerts = []
  changedPeers : a.changedPeers = [] ∨ b.changedPeers = []
  readAcks : a.readAcks = [] ∨ b.readAcks = []
  delayUntil : a.delayUntil = none ∨ b.delayUntil = none
  terms : a.terms = none ∨ b.terms = none
  release : a.release = none ∨ b.release = none

variable {a b : EventSet}

lemma isEmpty_iff : a.isEmpty ↔ a = empty := by
  constructor
  · intro h
    obtain ⟨⟩ := a
    simpa [isEmpty, empty, and_assoc, Std.ExtTreeMap.isEmpty_iff] using h
  · rintro rfl
    rfl

lemma isEmpty_merge : (a.merge b).isEmpty ↔ a.isEmpty ∧ b.isEmpty := by
  simp only [isEmpty, merge, List.isEmpty_iff, List.append_eq_nil_iff, Activities.isEmpty_merge,
    Std.ExtTreeMap.isEmpty_union,
    Option.isNone_or, isNone_largest, Bool.and_eq_true]
  -- only the order of the parts differs
  tauto

lemma Separate.merge_comm (h : a.Separate b) : a.merge b = b.merge a := by
  simp only [merge, append_comm_of_nil h.added, h.activities.merge_comm, union_comm_of_disjoint h.webpages,
    or_comm_of_none h.nearby, append_comm_of_nil h.calls, append_comm_of_nil h.contacts, largest_comm a.maxRead,
    largest_comm a.maxQts, append_comm_of_nil h.alerts, append_comm_of_nil h.changedPeers,
    append_comm_of_nil h.readAcks, or_comm_of_none h.delayUntil, or_comm_of_none h.terms, or_comm_of_none h.release]

/-- Event sets are a monoid in which nothing but the empty set can be undone, and two of them that share nothing
commute. -/
theorem merge_laws (a b c : EventSet) :
    a.merge (b.merge c) = (a.merge b).merge c ∧ empty.merge a = a ∧ a.merge empty = a ∧
      (a.isEmpty ↔ a = empty) ∧ ((a.merge b).isEmpty ↔ a.isEmpty ∧ b.isEmpty) ∧
      (a.Separate b → a.merge b = b.merge a) :=
  ⟨(a.merge_assoc b c).symm, a.empty_merge, a.merge_empty, isEmpty_iff, isEmpty_merge, Separate.merge_comm⟩

def sampleTyping : EventSet :=
  { empty with
    activities :=
      Std.ExtTreeMap.insert (Std.ExtTreeMap.insert ∅ ⟨1⟩ (Std.ExtTreeMap.insert ∅ ⟨10⟩ (some .typing))) ⟨3⟩ ∅
    maxQts := some 7 }

def sampleStopping : EventSet :=
  { empty with
    activities := Std.ExtTreeMap.insert ∅ ⟨1⟩ (Std.ExtTreeMap.insert ∅ ⟨11⟩ none)
    maxQts := some 5
    changedPeers := [⟨4⟩] }

lemma separate_samples : sampleTyping.Separate sampleStopping where
  added := .inl rfl
  activities := by
    intro chat us vs hu hv user hm
    simp only [sampleTyping, sampleStopping, Std.ExtTreeMap.getElem?_insert, Std.LawfulEqCmp.compare_eq_iff_eq,
      Std.ExtTreeMap.getElem?_empty] at hu hv
    split at hv
    · next h =>
      subst h
      cases hv
      obtain rfl : _ = us := by simpa using hu
      obtain rfl : ⟨10⟩ = user := by simpa using hm
      simp
    · cases hv
  webpages := by
    intro media hm
    exact absurd hm Std.ExtTreeMap.not_mem_empty
  nearby := .inl rfl
  calls := .inl rfl
  contacts := .inl rfl
  alerts := .inl rfl
  changedPeers := .inl rfl
  readAcks := .inl rfl
  delayUntil := .inl rfl
  terms := .inl rfl
  release := .inl rfl

theorem merge_samples : sampleTyping.Separate sampleStopping ∧
    sampleTyping.merge sampleStopping = sampleStopping.merge sampleTyping :=
  ⟨separate_samples, (merge_laws sampleTyping sampleStopping empty).2.2.2.2.2 separate_samples⟩

end EventSet

end AccountReplica
