/-! Stable sorting by an integer key. It inserts one element after the other, and so unfolds along the
list. -/

namespace AccountReplica.StableSort

variable {α : Type}

def insert (key : α → Int) (x : α) : List α → List α
  | [] => [x]
  | y :: ys => if key x ≤ key y then x :: y :: ys else y :: insert key x ys

def sort (key : α → Int) (xs : List α) : List α :=
  xs.foldr (insert key) []

theorem insert_perm (key : α → Int) (x : α) (ys : List α) : (insert key x ys).Perm (x :: ys) := by
  induction ys with
  | nil => exact .refl _
  | cons y ys ih =>
    unfold insert
    split
    · exact .refl _
    · exact (ih.cons y).trans (.swap x y ys)

theorem sort_perm (key : α → Int) (xs : List α) : (sort key xs).Perm xs := by
  induction xs with
  | nil => exact .refl _
  | cons x xs ih => exact (insert_perm key x _).trans (ih.cons x)

theorem sorted_insert {key : α → Int} {ys : List α} (h : ys.Pairwise fun a b => key a ≤ key b) (x : α) :
    (insert key x ys).Pairwise fun a b => key a ≤ key b := by
  induction ys with
  | nil => exact .cons (fun _ hm => nomatch hm) .nil
  | cons y ys ih =>
    obtain ⟨hy, hs⟩ := List.pairwise_cons.mp h
    unfold insert
    split
    · next hx =>
      refine .cons (fun z hm => ?_) h
      rcases List.mem_cons.mp hm with rfl | hm
      · exact hx
      · exact Int.le_trans hx (hy z hm)
    · next hx =>
      refine .cons (fun z hm => ?_) (ih hs)
      rcases List.mem_cons.mp ((insert_perm key x ys).mem_iff.mp hm) with rfl | hm
      · omega
      · exact hy z hm

theorem sorted_sort (key : α → Int) (xs : List α) : (sort key xs).Pairwise fun a b => key a ≤ key b := by
  induction xs with
  | nil => exact .nil
  | cons x xs ih => exact sorted_insert ih x

theorem sort_of_sorted {key : α → Int} {xs : List α} (h : xs.Pairwise fun a b => key a ≤ key b) : sort key xs = xs := by
  induction xs with
  | nil => rfl
  | cons x xs ih =>
    have hx : sort key (x :: xs) = insert key x xs := congrArg (insert key x) (ih h.of_cons)
    rw [hx]
    cases xs with
    | nil => rfl
    | cons y ys => exact if_pos (List.rel_of_pairwise_cons h List.mem_cons_self)

theorem insert_merge (key : α → Int) (x : α) (xs ys : List α) :
    insert key x (xs.merge ys fun a b => key a ≤ key b) = (insert key x xs).merge ys fun a b => key a ≤ key b := by
  induction xs generalizing ys with
  | nil =>
    rw [List.nil_merge]
    induction ys with
    | nil => simp [insert]
    | cons y ys ih =>
      by_cases hy : key x ≤ key y
      · simp [insert, hy]
      · simpa [insert, hy] using ih
  | cons x' xs ihx =>
    induction ys with
    | nil => simp
    | cons y ys ihy =>
      by_cases hx : key x ≤ key x' <;> by_cases hm : key x' ≤ key y
      · have hy : key x ≤ key y := Int.le_trans hx hm
        simp [insert, hx, hm, hy]
      · by_cases hy : key x ≤ key y
        · simp [insert, hx, hm, hy]
        · simpa [insert, hx, hm, hy] using ihy
      · simpa [insert, hx, hm] using ihx (y :: ys)
      · have hy : ¬key x ≤ key y := by omega
        simpa [insert, hx, hm, hy] using ihy

theorem sort_append (key : α → Int) (xs ys : List α) :
    sort key (xs ++ ys) = (sort key xs).merge (sort key ys) fun a b => key a ≤ key b := by
  induction xs with
  | nil => exact (List.nil_merge _).symm
  | cons x xs ih => exact (congrArg (insert key x) ih).trans (insert_merge key x _ _)

end AccountReplica.StableSort
