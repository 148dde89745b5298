/-! Arithmetic on counters. They are 32 bits wide and a result that does not fit is an overflow,
which is no error of the account or its server and so has a type of its own. -/

namespace AccountReplica

inductive Overflow
  | difference
  | sum
deriving DecidableEq

def Overflow.message : Overflow → String
  | difference => "attempt to subtract with overflow"
  | sum => "attempt to add with overflow"

namespace Counter

def Fits (n : Int) : Prop :=
  -0x80000000 ≤ n ∧ n < 0x80000000

instance (n : Int) : Decidable (Fits n) :=
  inferInstanceAs (Decidable (_ ∧ _))

def check (o : Overflow) (n : Int) : Except Overflow Int :=
  if Fits n then .ok n else .error o

theorem fits_toInt (x : Int32) : Fits x.toInt :=
  ⟨by simpa using x.le_toInt, by simpa using x.toInt_lt⟩

theorem toInt_max (x y : Int32) : (max x y).toInt = max x.toInt y.toInt := by
  show (if x ≤ y then y else x).toInt = _
  split
  · next h => exact (Int.max_eq_right (Int32.le_iff_toInt_le.mp h)).symm
  · next h =>
    rw [Int32.le_iff_toInt_le] at h
    omega

theorem check_eq_ok_iff {o : Overflow} {n m : Int} : check o n = .ok m ↔ Fits n ∧ n = m := by
  unfold check
  split <;> simp_all

end Counter

end AccountReplica
