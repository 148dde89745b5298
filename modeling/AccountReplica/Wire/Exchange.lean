import AccountReplica.Container
import AccountReplica.Difference
import AccountReplica.Wire.Update

/-! Written forms of what is exchanged with the server: containers, groups, states and differences. -/

namespace AccountReplica.Wire

instance : Form SequenceState where
  toValue s := .record [("pts", toValue s.pts), ("qts", toValue s.qts), ("date", toValue s.date),
    ("seq", toValue s.seq)]
  ofValue? v := do
    let f ← v.fields? ["pts", "qts", "date", "seq"]
    return ⟨← required f "pts", ← required f "qts", ← required f "date", ← required f "seq"⟩

instance : Form DifferenceRequest where
  toValue r := .record [("from", toValue r.origin), ("pts_total_limit", toValue r.limit)]
  ofValue? v := do
    let f ← v.fields? ["from", "pts_total_limit"]
    return ⟨← required f "from", ← optional f "pts_total_limit"⟩

instance : Form Container where
  toValue
    | .tooLong => .text "TooLong"
    | .short u date => .variant "Short" [("update", toValue u), ("date", toValue date)]
    | .combined us first last date => .variant "Combined"
      [("updates", toValue us), ("seq_start", toValue first), ("seq", toValue last),
        ("date", toValue date)]
    | .batch us seq date => .variant "Batch"
      [("updates", toValue us), ("seq", toValue seq), ("date", toValue date)]
  ofValue? v := do
    match ← v.variant? with
    | ("TooLong", content) => if Value.isUnit content then some .tooLong else none
    | ("Short", some v) =>
      let f ← v.named?
      return .short (← required f "update") (← required f "date")
    | ("Combined", some v) =>
      let f ← v.named?
      return .combined (← required f "updates") (← required f "seq_start") (← required f "seq")
        (← required f "date")
    | ("Batch", some v) =>
      let f ← v.named?
      return .batch (← required f "updates") (← required f "seq") (← required f "date")
    | _ => none

instance : Form UpdateGroup where
  toValue
    | .common g => .variant "WithPts"
      [("updates", toValue g.updates), ("pts", toValue g.pts), ("pts_count", toValue g.count)]
    | .secret g => .variant "WithQts" [("updates", toValue g.updates), ("qts", toValue g.qts)]
    | .numbered g => .variant "WithSeq"
      [("updates", toValue g.updates), ("seq_start", toValue g.first), ("seq_end", toValue g.last),
        ("date", toValue g.date)]
    | .dated g => .variant "WithDate" [("updates", toValue g.updates), ("date", toValue g.date)]
    | .tooLong => .text "TooLong"
  ofValue? v := do
    match ← v.variant? with
    | ("TooLong", content) => if Value.isUnit content then some .tooLong else none
    | ("WithPts", some v) =>
      let f ← v.named?
      return .common ⟨← required f "updates", ← required f "pts", ← required f "pts_count"⟩
    | ("WithQts", some v) =>
      let f ← v.named?
      return .secret ⟨← required f "updates", ← required f "qts"⟩
    | ("WithSeq", some v) =>
      let f ← v.named?
      return .numbered ⟨← required f "updates", ← required f "seq_start", ← required f "seq_end",
        ← required f "date"⟩
    | ("WithDate", some v) =>
      let f ← v.named?
      return .dated ⟨← required f "updates", ← required f "date"⟩
    | _ => none

instance : Form Difference where
  toValue
    | .empty date seq => .variant "Empty" [("date", toValue date), ("seq", toValue seq)]
    | .full ms us state => .variant "Full"
      [("new_messages", toValue ms), ("other_updates", toValue us), ("state", toValue state)]
    | .slice ms us state => .variant "Slice"
      [("new_messages", toValue ms), ("other_updates", toValue us),
        ("intermediate_state", toValue state)]
    | .tooLong pts => .variant "TooLong" [("pts", toValue pts)]
  ofValue? v := do
    match ← v.variant? with
    | ("Empty", some v) =>
      let f ← v.named?
      return .empty (← required f "date") (← required f "seq")
    | ("Full", some v) =>
      let f ← v.named?
      return .full (← required f "new_messages") (← required f "other_updates") (← required f "state")
    | ("Slice", some v) =>
      let f ← v.named?
      return .slice (← required f "new_messages") (← required f "other_updates")
        (← required f "intermediate_state")
    | ("TooLong", some v) =>
      let f ← v.named?
      return .tooLong (← required f "pts")
    | _ => none

end AccountReplica.Wire
