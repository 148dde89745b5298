import AccountReplica.Counter
import AccountReplica.SequenceState

/-! Why synchronizing can fail. -/

namespace AccountReplica

inductive SyncError
  | transport (message : String) (retryable : Bool)
  /-- Another session of the same account is already fetching the difference. -/
  | duplicateSession
  | differenceTooLong (pts : Int32)
  | stateMismatch (expected : SequenceState) (found : Option SequenceState)
  | storage (message : String)
  | channelClosed
  | custom (message : String)
deriving DecidableEq

namespace SyncError

def message : SyncError → String
  | transport m _ => "transport error: " ++ m
  | duplicateSession => "difference requested by a duplicate session"
  | differenceTooLong pts => "difference too long (server pts " ++ toString pts.toInt ++ ")"
  | stateMismatch expected found =>
    "sequencing state mismatch: expected " ++ expected.text ++ ", found " ++
      SequenceState.textOrNone found
  | storage m => "storage error: " ++ m
  | channelClosed => "engine channel closed"
  | custom m => "custom operation failed: " ++ m

def isRetryable : SyncError → Bool
  | transport _ retryable => retryable
  | stateMismatch .. => true
  | _ => false

def isFatal : SyncError → Bool
  | differenceTooLong _ => true
  | _ => false

def isMismatch : SyncError → Bool
  | stateMismatch .. => true
  | _ => false

end SyncError

inductive Failure
  | error (error : SyncError)
  | overflow (overflow : Overflow)
deriving DecidableEq

end AccountReplica
