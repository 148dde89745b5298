/-! The counters up to which an account has followed its server. -/

namespace AccountReplica

/-- `pts` counts the events of the common message box, `qts` those of secret chats and `seq` the
pushed containers; `date` is the server's time at the last applied update. -/
structure SequenceState where
  pts : Int32
  qts : Int32
  date : Int32
  seq : Int32
deriving DecidableEq

structure DifferenceRequest where
  origin : SequenceState
  limit : Option Int32
deriving DecidableEq

namespace SequenceState

def zero : SequenceState :=
  ⟨0, 0, 0, 0⟩

def text (s : SequenceState) : String :=
  "SequenceState \x7b pts: " ++ toString s.pts.toInt ++ ", qts: " ++ toString s.qts.toInt ++
    ", date: " ++ toString s.date.toInt ++ ", seq: " ++ toString s.seq.toInt ++ " \x7d"

def textOrNone : Option SequenceState → String
  | none => "None"
  | some s => "Some(" ++ s.text ++ ")"

end SequenceState

end AccountReplica
