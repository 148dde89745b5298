/-! Subscribers in numbered slots that are used again. A token names a slot and its generation, so that
a token of an earlier occupant removes nothing. -/

namespace AccountReplica

structure BagToken where
  index : UInt32
  generation : UInt32
deriving DecidableEq

structure Slot (α : Type) where
  generation : UInt32
  value : Option α
deriving DecidableEq

structure SubscriberBag (α : Type) where
  slots : List (Slot α)
  /-- The vacant slots; the next to be used comes first. -/
  free : List UInt32
  size : Nat
deriving DecidableEq

namespace SubscriberBag

variable {α : Type}

def empty : SubscriberBag α :=
  ⟨[], [], 0⟩

def isEmpty (b : SubscriberBag α) : Bool :=
  b.size = 0

def values (b : SubscriberBag α) : List α :=
  b.slots.filterMap (·.value)

def generationAt (b : SubscriberBag α) (i : UInt32) : UInt32 :=
  (b.slots[i.toNat]?.map (·.generation)).getD 0

def insert (b : SubscriberBag α) (a : α) : BagToken × SubscriberBag α :=
  match b.free with
  | i :: free =>
    let g := b.generationAt i
    (⟨i, g⟩, ⟨b.slots.set i.toNat ⟨g, some a⟩, free, b.size + 1⟩)
  | [] => (⟨.ofNat b.slots.length, 0⟩, ⟨b.slots ++ [⟨0, some a⟩], [], b.size + 1⟩)

def remove (b : SubscriberBag α) (t : BagToken) : Option (α × SubscriberBag α) :=
  match b.slots[t.index.toNat]? with
  | none => none
  | some slot =>
    match slot.value with
    | none => none
    | some a =>
      if slot.generation = t.generation then
        some (a, ⟨b.slots.set t.index.toNat ⟨slot.generation + 1, none⟩, t.index :: b.free, b.size - 1⟩)
      else none

end SubscriberBag

end AccountReplica
