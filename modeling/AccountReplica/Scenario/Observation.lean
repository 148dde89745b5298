import AccountReplica.Scenario.Step
import AccountReplica.Text.TaskNumber

/-! What can be seen of a world after a step. -/

namespace AccountReplica

inductive QueueView
  | operations (ops : List Operation)
  | lost
  | stopped

structure Observation where
  queue : QueueView
  cells : List Publication
  state : Option (Option SequenceState)
  /-- Results, first those of the step itself, then those that were waited for, in the order in which
  they were asked for. -/
  out : List (String × Outcome)
  calls : List SinkCall
  counts : List (Tally × Nat)
  lastError : Option String

namespace Operation

def holdsSubscriber (s : SubscriberId) (op : Operation) : Bool :=
  match op.content with
  | .pollCompletion _ subscribers => subscribers.contains s
  | _ => false

def holdsWaiter (waiter : WaiterId) (op : Operation) : Bool :=
  match op.content with
  | .replayPrecomputed _ w => w = some waiter
  | _ => false

def holdsWork (work : WorkId) (op : Operation) : Bool :=
  match op.content with
  | .custom w => w = some work
  | _ => false

end Operation

namespace World

def queued (w : World) : List Operation :=
  (w.engine.map (·.queue.operations)).getD []

def isOpen (w : World) : Promise → Bool
  | .completion s => w.queued.any (·.holdsSubscriber s)
  | .precomputed waiter => w.queued.any (·.holdsWaiter waiter)
  | .work id => w.begun.contains id || w.queued.any (·.holdsWork id)
  | .subscription .. => true

def collect (w : World) (p : Pending) : List Outcome × Option Pending :=
  match p.promise with
  | .subscription .. => (p.arrived, some { p with arrived := [] })
  | promise =>
    match p.arrived with
    | o :: _ => ([o], none)
    | [] => if w.isOpen promise then ([], some p) else ([promise.broken], none)

def queueView (w : World) : QueueView :=
  if !w.handle then .stopped
  else match w.engine with
    | none => .lost
    | some e =>
      match (e.step (.command .listOperations)).takeEffects.1 with
      | [.operations ops] => .operations ops
      | _ => .lost

def maskedError (s : Stats) : Option String :=
  s.lastError.map TaskNumber.mask

def observe (w : World) : Observation × World :=
  let collected := w.pending.map fun p => (p.name, w.collect p)
  let writes := w.storage.storage.viewWrites
  let changed := Tally.all.filter fun t => w.stats.count t ≠ w.seenStats.count t
  ({ queue := w.queueView
     cells := w.cells
     state := if writes = w.seenWrites then none else some w.storage.storage.view
     out := w.out ++ collected.flatMap fun (name, os, _) => os.map (name, ·)
     calls := w.calls
     counts := if w.handle then changed.map fun t => (t, w.stats.count t) else []
     lastError :=
       if w.handle ∧ maskedError w.stats ≠ maskedError w.seenStats then maskedError w.stats else none },
   { w with
     cells := []
     calls := []
     out := []
     pending := collected.filterMap (·.2.2)
     seenStats := w.stats
     seenWrites := writes })

def run : List Step → World → Option (List Observation × World)
  | [], w => some ([], w)
  | s :: ss, w => do
    let (o, w) := (← w.step s).observe
    let (os, w) ← run ss w
    return (o :: os, w)

end World

end AccountReplica
