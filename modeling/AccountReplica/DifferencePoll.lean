import AccountReplica.Replay.Task

/-! One round of the difference poll: the persisted state is read, the server is asked, and its answer
is replayed if the state is still the one that was read. -/

namespace AccountReplica

inductive PollOutcome
  | stateInitialized (state : SequenceState)
  | applied (events : EventSet) (more : Bool)
  | mismatch (events : EventSet)
  | tooLong (pts : Int32) (events : EventSet)
  | failed (events : EventSet) (error : SyncError)
  | replayFailed (error : SyncError)
deriving DecidableEq

namespace DifferencePoll

inductive Question
  | currentState
  | difference (request : DifferenceRequest)
deriving DecidableEq

def ask (limit : Option Int32) (events : EventSet) (s : SharedStorage) :
    TaskResult (Except PollOutcome Question) :=
  match s.run readState with
  | (.error e, s) => ⟨.error (.failed events e), s, []⟩
  | (.ok none, s) => ⟨.ok .currentState, s, []⟩
  | (.ok (some origin), s) => ⟨.ok (.difference ⟨origin, limit⟩), s, [.differencesPolled]⟩

def adopt (state : SequenceState) : Transaction.Body Bool := fun t =>
  match t.state with
  | some _ => .ok (false, t)
  | none => (t.write (.setState state)).map (true, ·)

def takeState (events : EventSet) (answer : Except SyncError SequenceState) (s : SharedStorage) :
    TaskResult PollOutcome :=
  match answer with
  | .error e => ⟨.failed events e, s, []⟩
  | .ok state =>
    match s.run (adopt state) with
    | (.ok true, s) => ⟨.stateInitialized state, s, []⟩
    | (.ok false, s) => ⟨.mismatch events, s, []⟩
    | (.error e, s) => ⟨.failed events e, s, []⟩

def replayAnswer (slow : Bool) (events : EventSet) (origin : SequenceState) (d : Difference)
    (s : SharedStorage) : TaskResult PollOutcome :=
  let slowly := if slow then [Tally.slowReplays] else []
  match s.run (replayDifference origin d) with
  | (.ok (.applied _ applied more), s) =>
    ⟨.applied (events.merge applied) more, s, slowly ++ if more then [.slicesApplied] else []⟩
  | (.ok (.mismatch _), s) => ⟨.mismatch events, s, slowly⟩
  | (.error (.differenceTooLong pts), s) => ⟨.tooLong pts events, s, slowly⟩
  | (.error e, s) => ⟨.replayFailed e, s, slowly⟩

/-- A difference that another session is fetching counts as an empty one. -/
def takeDifference (slow : Bool) (events : EventSet) (origin : SequenceState)
    (answer : Except SyncError Difference) (s : SharedStorage) : TaskResult PollOutcome :=
  match answer with
  | .error .duplicateSession => ⟨.applied events false, s, []⟩
  | .error e => ⟨.failed events e, s, []⟩
  | .ok (.tooLong pts) => ⟨.tooLong pts events, s, []⟩
  | .ok d => replayAnswer slow events origin d s

end DifferencePoll

end AccountReplica
