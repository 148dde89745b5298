/-! Sets of characters as ranges of their numbers. -/

namespace AccountReplica

/-- Closed ranges. -/
abbrev CodePoints := List (Nat × Nat)

namespace CodePoints

def covers (s : CodePoints) (c : Char) : Bool :=
  s.any fun (low, high) => low ≤ c.toNat && c.toNat ≤ high

end CodePoints

end AccountReplica
