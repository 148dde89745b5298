import AccountReplica.Counter
import AccountReplica.EventSet
import Mathlib.Tactic.Common

/-! Event sets under `merge` are a monoid, and what a message or an update tells is merged into what was
told before. -/

namespace AccountReplica

section

variable {κ β : Type} [Ord κ] [Std.TransOrd κ] [Std.LawfulEqOrd κ]

lemma union_assoc (a b c : Std.ExtTreeMap κ β) : (a ∪ b) ∪ c = a ∪ (b ∪ c) := by
  refine Std.ExtTreeMap.ext_getElem? fun k => ?_
  simp only [Std.ExtTreeMap.getElem?_union, Option.or_assoc]

@[simp] lemma union_empty (a : Std.ExtTreeMap κ β) : a ∪ ∅ = a := by
  refine Std.ExtTreeMap.ext_getElem? fun k => ?_
  simp only [Std.ExtTreeMap.getElem?_union, Std.ExtTreeMap.getElem?_empty, Option.none_or]

@[simp] lemma empty_union (a : Std.ExtTreeMap κ β) : ∅ ∪ a = a := by
  refine Std.ExtTreeMap.ext_getElem? fun k => ?_
  simp only [Std.ExtTreeMap.getElem?_union, Std.ExtTreeMap.getElem?_empty, Option.or_none]

omit [Std.LawfulEqOrd κ] in
lemma union_insert (a b : Std.ExtTreeMap κ β) (k : κ) (v : β) : a ∪ b.insert k v = (a ∪ b).insert k v :=
  Std.ExtTreeMap.union_insert_right_eq_insert_union (p := ⟨k, v⟩)

end

lemma max_assoc (x y z : Int32) : max (max x y) z = max x (max y z) := by
  rw [← Int32.toInt_inj]
  simp only [Counter.toInt_max]
  omega

lemma largest_assoc (a b c : Option Int32) : largest (largest a b) c = largest a (largest b c) := by
  cases a <;> cases b <;> cases c <;> simp only [largest, max_assoc]

@[simp] lemma largest_none (a : Option Int32) : largest a none = a := by
  cases a <;> rfl

@[simp] lemma none_largest (a : Option Int32) : largest none a = a := by
  cases a <;> rfl

namespace Activities

lemma getElem?_merge (a b : Activities) (chat : PeerId) :
    (a.merge b)[chat]? = a[chat]?.merge (· ∪ ·) b[chat]? := by
  simp only [merge, Std.ExtTreeMap.getElem?_map, Std.ExtTreeMap.getElem?_union,
    Std.ExtTreeMap.getD_eq_getD_getElem?]
  cases a[chat]? <;> cases b[chat]? <;> simp [union_empty, empty_union]

lemma merge_assoc (x y z : Activities) : (x.merge y).merge z = x.merge (y.merge z) := by
  refine Std.ExtTreeMap.ext_getElem? fun chat => ?_
  simp only [getElem?_merge]
  cases x[chat]? <;> cases y[chat]? <;> cases z[chat]? <;> simp [union_assoc]

@[simp] lemma merge_empty (a : Activities) : a.merge ∅ = a := by
  refine Std.ExtTreeMap.ext_getElem? fun chat => ?_
  simp only [getElem?_merge, Std.ExtTreeMap.getElem?_empty, Option.merge_none_right]

@[simp] lemma empty_merge (a : Activities) : merge ∅ a = a := by
  refine Std.ExtTreeMap.ext_getElem? fun chat => ?_
  simp only [getElem?_merge, Std.ExtTreeMap.getElem?_empty, Option.merge_none_left]

lemma merge_insert (a : Activities) (chat user : PeerId) (doing : Option Activity) :
    a.merge (Std.ExtTreeMap.insert ∅ chat (Std.ExtTreeMap.insert ∅ user doing)) =
      a.insert chat ((a.getD chat ∅).insert user doing) := by
  refine Std.ExtTreeMap.ext_getElem? fun c => ?_
  rw [getElem?_merge]
  simp only [Std.ExtTreeMap.getElem?_insert, Std.LawfulEqCmp.compare_eq_iff_eq, Std.ExtTreeMap.getElem?_empty,
    Std.ExtTreeMap.getD_eq_getD_getElem?]
  split
  · next h =>
    subst h
    cases a[chat]? <;> simp [union_insert, union_empty]
  · exact Option.merge_none_right

end Activities

namespace EventSet

variable (a b c : EventSet)

lemma merge_assoc : (a.merge b).merge c = a.merge (b.merge c) := by
  simp only [merge, List.append_assoc, Activities.merge_assoc, union_assoc, Option.or_assoc, largest_assoc]

@[simp] lemma merge_empty : a.merge empty = a := by
  simp [merge, empty]

@[simp] lemma empty_merge : empty.merge a = a := by
  simp [merge, empty]

lemma setActivity_eq (chat user : PeerId) (doing : Option Activity) :
    a.setActivity chat user doing = a.merge (empty.setActivity chat user doing) := by
  have h : Std.ExtTreeMap.getD (∅ : Activities) chat ∅ = ∅ := Std.ExtTreeMap.getD_empty
  simp [setActivity, merge, empty, h, Activities.merge_insert]

lemma addMessage_eq (m : Message) : a.addMessage m = a.merge (empty.addMessage m) := by
  have h : { a with added := a.added ++ [m.id] } = a.merge { empty with added := empty.added ++ [m.id] } := by
    simp [merge, empty]
  cases hm : m.author with
  | none => simpa only [addMessage, hm] using h
  | some author =>
    simp only [addMessage, hm]
    rw [setActivity_eq, h, merge_assoc, ← setActivity_eq]

lemma addUpdate_eq (u : Update) : a.addUpdate u = a.merge (empty.addUpdate u) := by
  cases u with
  | activity chat user doing => exact a.setActivity_eq chat user doing
  | webpage page => simp [addUpdate, merge, empty, union_insert]
  | _ => simp [addUpdate, merge, empty]

end EventSet

end AccountReplica
