import AccountReplica.Account
import AccountReplica.SyncError

/-! Changing an account write by write, where a chosen write may be refused. -/

namespace AccountReplica

def WriteKind.method : WriteKind → String
  | setState => "set_state"
  | storeMessage => "store_message"
  | deleteMessages => "delete_messages"
  | readInbox => "apply_inbox_read"
  | storeWebpage => "store_webpage"
  | setContact => "set_contact"

/-- The write of the given kind that is refused, counted from 1; the 0th never comes. -/
structure Refusal where
  kind : WriteKind
  nth : Nat
deriving DecidableEq

def Refusal.error (r : Refusal) : SyncError :=
  .storage ("injected " ++ r.kind.method ++ " failure")

structure Transaction where
  account : Account
  refusal : Option Refusal
deriving DecidableEq

abbrev Transaction.Body (α : Type) :=
  Transaction → Except Failure (α × Transaction)

namespace Transaction

def start (a : Account) : Transaction :=
  ⟨a, none⟩

def state (t : Transaction) : Option SequenceState :=
  t.account.state

def write (t : Transaction) (w : Write) : Except Failure Transaction :=
  match t.refusal with
  | none => .ok { t with account := t.account.write w }
  | some r =>
    if r.kind ≠ w.kind then .ok { t with account := t.account.write w }
    else if r.nth = 1 then .error (.error r.error)
    else .ok ⟨t.account.write w, some { r with nth := r.nth - 1 }⟩

def storeMessage (t : Transaction) (m : Message) : Except Failure (Bool × Transaction) :=
  (t.write (.storeMessage m)).map (!t.account.messages.contains m.id, ·)

end Transaction

end AccountReplica
