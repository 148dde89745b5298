import AccountReplica.EventSet
import AccountReplica.Transaction

/-! Applying single updates: a write, and what is told of it. -/

namespace AccountReplica

structure Progress where
  txn : Transaction
  events : EventSet
deriving DecidableEq

namespace Progress

def storeMessage (p : Progress) (m : Message) : Except Failure Progress := do
  let (isNew, txn) ← p.txn.storeMessage m
  return ⟨txn, if isNew && m.incoming then p.events.addMessage m else p.events⟩

def update (p : Progress) : Update → Except Failure Progress
  | .newMessage m _ _ | .newSecretMessage m _ => p.storeMessage m
  | u => do
    let txn ← match u.write? with
      | some w => p.txn.write w
      | none => pure p.txn
    return ⟨txn, p.events.addUpdate u⟩

def messages (p : Progress) (ms : List Message) : Except Failure Progress :=
  ms.foldlM storeMessage p

def updates (p : Progress) (us : List Update) : Except Failure Progress :=
  us.foldlM update p

def setState (p : Progress) (expected state : SequenceState) : Except Failure Progress :=
  if state = expected then pure p
  else return { p with txn := ← p.txn.write (.setState state) }

end Progress

end AccountReplica
