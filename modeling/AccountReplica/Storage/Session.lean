import AccountReplica.Storage

/-! Transactions given as lists of accesses. -/

namespace AccountReplica

inductive Access
  | state
  | write (w : Write)
  | message (id : MessageId)
  | maxRead (chat : PeerId)
  | settings (chat : PeerId)
  | fail (error : SyncError)
deriving DecidableEq

inductive Reply
  | done
  | state (state : Option SequenceState)
  | stored (isNew : Bool)
  | message (message : Option Message)
  | maxRead (number : Int32)
  | settings (settings : ChatSettings)
deriving DecidableEq

def Access.perform (t : Transaction) : Access → Except Failure (Reply × Transaction)
  | .state => .ok (.state t.state, t)
  | .write (.storeMessage m) => (t.storeMessage m).map fun (isNew, t) => (.stored isNew, t)
  | .write w => (t.write w).map (.done, ·)
  | .message id => .ok (.message (t.account.message? id), t)
  | .maxRead chat => .ok (.maxRead (t.account.maxRead chat), t)
  | .settings chat => .ok (.settings (t.account.settingsOf chat), t)
  | .fail e => .error (.error e)

structure Broken where
  seen : List Reply
  failure : Failure
deriving DecidableEq

namespace Storage

def accesses (t : Transaction) : List Access → Except Broken (List Reply × Transaction)
  | [] => .ok ([], t)
  | a :: as =>
    match a.perform t with
    | .error f => .error ⟨[], f⟩
    | .ok (r, t) =>
      match accesses t as with
      | .error b => .error { b with seen := r :: b.seen }
      | .ok (rs, t) => .ok (r :: rs, t)

def session (as : List Access) (s : Storage) : Except Broken (List Reply) × Storage :=
  s.attempt ⟨[], .error .refusedTransaction⟩ (accesses · as)

end Storage

end AccountReplica
