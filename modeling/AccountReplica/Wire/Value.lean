import AccountReplica.Identifiers

/-! Self-describing values, and how simple types are read from them and written as them. -/

namespace AccountReplica.Wire

inductive Value
  | null
  | bool (b : Bool)
  | int (n : Int)
  | fraction
  | text (s : String)
  | list (items : List Value)
  | record (fields : List (String × Value))
deriving Inhabited

abbrev Fields := String → Option Value

namespace Value

def named? : Value → Option Fields
  | record fs => some fun name => fs.lookup name
  | _ => none

/-- A record may also be given as the list of all its fields in their order. -/
def fields? (names : List String) : Value → Option Fields
  | record fs => some fun name => fs.lookup name
  | list vs => if vs.length = names.length then some fun name => (names.zip vs).lookup name else none
  | _ => none

def variant? : Value → Option (String × Option Value)
  | text name => some (name, none)
  | record [(name, v)] => some (name, some v)
  | _ => none

def isUnit : Option Value → Bool
  | none | some null => true
  | _ => false

def variant (name : String) (fields : List (String × Value)) : Value :=
  record [(name, record fields)]

end Value

class Form (α : Type) where
  toValue : α → Value
  ofValue? : Value → Option α

export Form (toValue ofValue?)

def required {α : Type} [Form α] (f : Fields) (name : String) : Option α :=
  f name >>= ofValue?

def optional {α : Type} [Form α] (f : Fields) (name : String) : Option (Option α) :=
  match f name with
  | none | some .null => some none
  | some v => (ofValue? v).map some

def integerIn? (low high : Int) : Value → Option Int
  | .int n => if low ≤ n ∧ n ≤ high then some n else none
  | _ => none

instance : Form Value := ⟨id, some⟩

instance : Form Bool where
  toValue := .bool
  ofValue?
    | .bool b => some b
    | _ => none

instance : Form String where
  toValue := .text
  ofValue?
    | .text s => some s
    | _ => none

instance : Form Int32 where
  toValue n := .int n.toInt
  ofValue? v := (integerIn? Int32.minValue.toInt Int32.maxValue.toInt v).map Int32.ofInt

instance : Form Int64 where
  toValue n := .int n.toInt
  ofValue? v := (integerIn? Int64.minValue.toInt Int64.maxValue.toInt v).map Int64.ofInt

instance : Form UInt8 where
  toValue n := .int n.toNat
  ofValue? v := (integerIn? 0 (UInt8.size - 1) v).map fun n => .ofNat n.toNat

instance : Form UInt32 where
  toValue n := .int n.toNat
  ofValue? v := (integerIn? 0 (UInt32.size - 1) v).map fun n => .ofNat n.toNat

instance : Form Nat where
  toValue n := .int n
  ofValue? v := (integerIn? 0 (UInt64.size - 1) v).map Int.toNat

instance {α : Type} [Form α] : Form (List α) where
  toValue as := .list (as.map toValue)
  ofValue?
    | .list vs => vs.mapM ofValue?
    | _ => none

instance {α : Type} [Form α] : Form (Option α) where
  toValue
    | some a => toValue a
    | none => .null
  ofValue?
    | .null => some none
    | v => (ofValue? v).map some

instance {α β : Type} [Form α] [Form β] : Form (α × β) where
  toValue p := .list [toValue p.1, toValue p.2]
  ofValue?
    | .list [a, b] => do return (← ofValue? a, ← ofValue? b)
    | _ => none

instance : Form PeerId where
  toValue p := toValue p.val
  ofValue? v := (ofValue? v).map PeerId.mk

instance : Form MediaId where
  toValue m := toValue m.val
  ofValue? v := (ofValue? v).map MediaId.mk

instance : Form MessageId where
  toValue m := .record [("peer_id", toValue m.peer), ("id", toValue m.number)]
  ofValue? v := do
    let f ← v.fields? ["peer_id", "id"]
    return ⟨← required f "peer_id", ← required f "id"⟩

end AccountReplica.Wire
