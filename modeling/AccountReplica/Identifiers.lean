import Std.Data.ExtTreeMap

/-! Identifiers of chats, messages and media, with the orders their tables are kept in. -/

namespace AccountReplica

structure PeerId where
  val : Int64
deriving DecidableEq

structure MediaId where
  val : Int64
deriving DecidableEq

/-- A message number is unique only within its chat, so the chat is part of the identifier. -/
structure MessageId where
  peer : PeerId
  number : Int32
deriving DecidableEq

instance : Ord PeerId := ⟨compareOn PeerId.val⟩
instance : Ord MediaId := ⟨compareOn MediaId.val⟩

instance : Ord MessageId := ⟨compareLex (compareOn MessageId.peer) (compareOn MessageId.number)⟩

instance : Std.TransOrd PeerId := inferInstanceAs (Std.TransCmp (compareOn PeerId.val))
instance : Std.TransOrd MediaId := inferInstanceAs (Std.TransCmp (compareOn MediaId.val))

instance : Std.TransOrd MessageId :=
  inferInstanceAs (Std.TransCmp (compareLex (compareOn MessageId.peer) (compareOn MessageId.number)))

instance : Std.LawfulEqOrd PeerId where
  eq_of_compare {a b} h := by
    cases a; cases b
    exact congrArg PeerId.mk (Std.LawfulEqOrd.eq_of_compare (α := Int64) h)

instance : Std.LawfulEqOrd MediaId where
  eq_of_compare {a b} h := by
    cases a; cases b
    exact congrArg MediaId.mk (Std.LawfulEqOrd.eq_of_compare (α := Int64) h)

instance : Std.LawfulEqOrd MessageId where
  eq_of_compare {a b} h := by
    cases a with | mk p m => cases b with | mk q n =>
    obtain ⟨hp, hm⟩ := Ordering.then_eq_eq.1 h
    exact congr (congrArg MessageId.mk (Std.LawfulEqOrd.eq_of_compare (α := PeerId) hp))
      (Std.LawfulEqOrd.eq_of_compare (α := Int32) hm)

def PeerId.text (p : PeerId) : String :=
  "peer:" ++ toString p.val.toInt

def MessageId.text (m : MessageId) : String :=
  m.peer.text ++ "/" ++ toString m.number.toInt

def MessageId.noLater (a b : MessageId) : Bool :=
  (compare a b).isLE

end AccountReplica
