import AccountReplica.SequenceState
import AccountReplica.Update

/-! Answers of the server to a difference request. -/

namespace AccountReplica

inductive Difference
  | empty (date seq : Int32)
  | full (messages : List Message) (updates : List Update) (state : SequenceState)
  | slice (messages : List Message) (updates : List Update) (state : SequenceState)
  | tooLong (pts : Int32)
deriving DecidableEq

def Difference.hasMore : Difference → Bool
  | slice .. => true
  | _ => false

end AccountReplica
