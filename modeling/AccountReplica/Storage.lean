import AccountReplica.Transaction

/-! Storage of one account in memory. A transaction works on a copy, which replaces the committed
content only if all of it succeeds. -/

namespace AccountReplica

structure Storage where
  account : Account
  resources : Std.ExtTreeMap String (List UInt8)
  view : Option SequenceState
  viewWrites : Nat
  commits : Nat
  refusals : Nat

def SyncError.refusedTransaction : SyncError :=
  .storage "injected transaction failure"

namespace Storage

def empty : Storage :=
  ⟨.empty, ∅, none, 0, 0, 0⟩

def setState (s : Storage) (state : SequenceState) : Storage :=
  { s with
    account := s.account.write (.setState state)
    view := some state
    viewWrites := s.viewWrites + 1 }

def setSettings (s : Storage) (chat : PeerId) (settings : ChatSettings) : Storage :=
  { s with account := { s.account with settings := s.account.settings.insert chat settings } }

def failNext (s : Storage) (n : Nat) : Storage :=
  { s with refusals := n }

def storeResources (s : Storage) (rs : List Resource) : Storage :=
  { s with resources := rs.foldl (fun m r => m.insert r.id r.data) s.resources }

/-- The view is written only when the state changed. -/
def commit (s : Storage) (a : Account) : Storage :=
  let s' := { s with account := a, commits := s.commits + 1 }
  if a.state = s.account.state then s'
  else { s' with view := a.state, viewWrites := s.viewWrites + 1 }

/-- A pending refusal fails one transaction with `refused` without running it. -/
def attempt {ε α : Type} (refused : ε) (body : Transaction → Except ε (α × Transaction))
    (s : Storage) : Except ε α × Storage :=
  match s.refusals with
  | n + 1 => (.error refused, { s with refusals := n })
  | 0 =>
    match body (.start s.account) with
    | .error e => (.error e, s)
    | .ok (a, t) => (.ok a, s.commit t.account)

def transaction {α : Type} (body : Transaction.Body α) (s : Storage) : Except Failure α × Storage :=
  s.attempt (.error .refusedTransaction) body

end Storage

/-- An overflow in a task of the storage is an error for whoever asked for the transaction. -/
def Failure.contained : Failure → SyncError
  | error e => e
  | overflow o => .storage ("storage task failed: task # panicked with message \"" ++ o.message ++ "\"")

end AccountReplica
