import AccountReplica.Scenario.World
import AccountReplica.Text.Quoted

/-! Turns: what each does, and in which order they are taken. -/

namespace AccountReplica

namespace World

def settleTask {α : Type} (w : World) (r : TaskResult α) : α × World :=
  (r.result, { w with storage := r.storage, stats := r.tallies.foldl Stats.bump w.stats })

def takeAnswer (w : World) (op : OperationId) : Answer → World
  | .state events answer =>
    let (outcome, w) := w.settleTask (DifferencePoll.takeState events answer w.storage)
    w.report op (.differencePolled outcome)
  | .difference events origin answer =>
    let (outcome, w) :=
      w.settleTask (DifferencePoll.takeDifference w.slow events origin answer w.storage)
    w.report op (.differencePolled outcome)
  | .fence answer => w.report op (.fenceCompleted answer)

def receive (w : World) (op : OperationId) (latency : Nat) (answer : Answer) : World :=
  if latency ≠ 0 then w.hold ⟨op, .take answer⟩ (.time (w.timeAfter latency))
  else if answer.usesStorage then { w with storing := w.storing ++ [⟨op, .take answer⟩] }
  else w.takeAnswer op answer

def request (w : World) (op : OperationId) (answer : Answer) : World :=
  let n := w.network
  if !n.gated then w.receive op n.latency answer
  else if n.permits = 0 then w.hold ⟨op, .receive n.latency answer⟩ .permit
  else { w with network := { n with permits := n.permits - 1 } }.receive op n.latency answer

def askServer (w : World) (op : OperationId) (events : EventSet) : DifferencePoll.Question → World
  | .currentState =>
    let (answer, network) := w.network.askState
    { w with network }.request op (.state events answer)
  | .difference r =>
    let w := w.network.hook.elim w w.interfere
    let (answer, network) := w.network.askDifference r
    { w with network }.request op (.difference events r.origin answer)

def askFence (w : World) (op : OperationId) : World :=
  let (answer, network) := w.network.askFence
  { w with network }.request op (.fence answer)

def panicMessage (text : String) : String :=
  if text.isEmpty then "task # panicked" else "task # panicked with message " ++ quoted text

def endWork (w : World) (op : OperationId) (id : WorkId) (how : WorkEnd) : World :=
  let outcome : Outcome := match how with
    | .ok n => .ok n
    | .err text => .err text
    | .panic _ => .closed
  (w.arrive (· = .work id) outcome).enqueue ⟨op, .noteEnd how⟩

def noteEnd (w : World) (op : OperationId) (how : WorkEnd) : World :=
  let w := match how with
    | .panic text => { w with stats := w.stats.recordError (.custom (panicMessage text)) }
    | _ => w
  w.report op .customFinished

def planOf (w : World) (id : WorkId) : WorkPlan :=
  ((w.works.find? (·.id = id)).map (·.plan)).getD (.gated none)

def runWork (w : World) (op : OperationId) (id : WorkId) : World :=
  match w.planOf id with
  | .ends how 0 | .gated (some how) => w.endWork op id how
  | .ends how after => w.hold ⟨op, .endWork id how⟩ (.time (w.timeAfter after))
  | .gated none => w.hold ⟨op, .work id⟩ (.gate id)

def beginTask (w : World) (op : OperationId) : Task → World
  | .pollDifference events =>
    match w.settleTask (DifferencePoll.ask w.limit events w.storage) with
    | (.error outcome, w) => w.report op (.differencePolled outcome)
    | (.ok question, w) => w.askServer op events question
  | .replayGroups groups =>
    let (r, w) := w.settleTask (replayGroupsTask w.slow groups w.storage)
    w.report op (.groupsReplayed r)
  | .replayPrecomputed state =>
    let (r, w) := w.settleTask (replayPrecomputedTask w.slow state w.storage)
    w.report op (.precomputedReplayed r)
  | .custom id => { w with begun := id :: w.begun }.enqueue ⟨op, .work id⟩
  | .fence => w.askFence op
  | .resolveNotifications ids =>
    let (r, storage) := w.storage.run (readNotifications ids today)
    { w with storage }.report op (.eventsProcessed r)

def proceed (w : World) (f : Flight) : World :=
  match f.stage with
  | .begin task => w.beginTask f.op task
  | .receive latency answer => w.receive f.op latency answer
  | .take answer => w.takeAnswer f.op answer
  | .work id => w.runWork f.op id
  | .endWork id how => w.endWork f.op id how
  | .noteEnd how => w.noteEnd f.op how
  | .timer 0 => w.report f.op .timerFired
  | .timer delay => w.hold ⟨f.op, .timer 0⟩ (.time (w.timeAfter delay))

def turnSize : Nat :=
  128

/-- Reports come before commands. The engine stops once all is done and the handle is gone. -/
def engineTurn (w : World) : World :=
  let reports := w.reports.take turnSize
  let commands := w.mail.take (turnSize - reports.length)
  let inputs := reports.map (fun (op, r) => Input.report op r) ++ commands.map .command
  let w := inputs.foldl feed
    { w with reports := w.reports.drop turnSize, mail := w.mail.drop commands.length }
  if inputs.length = turnSize then { w with listening := false }.pause .engine
  else
    let w := { w with listening := true }
    if w.handle then w else w.stopEngine

def forwarderTurn (w : World) : World :=
  if w.handle then
    let commands := (w.pushed.take turnSize).map fun c => Command.addGroups c.groups
    let w := { w with pushed := w.pushed.drop turnSize }.post commands
    if commands.length = turnSize then w.pause .forwarder else w
  else { w with pushed := [] }

def takeTurn (w : World) : Turn → World
  | .resident .engine => w.engineTurn
  | .resident .forwarder => w.forwarderTurn
  | .flight f => if f.stage.usesStorage then { w with storing := w.storing ++ [f] } else w.proceed f

def nextDue? (w : World) (target : Nat) : Option Nat :=
  (w.waiting.filterMap fun x =>
    match x.hold with
    | .time due => if due ≤ target then some due else none
    | _ => none).min?

def moveClock (w : World) (now : Nat) : World :=
  { w with clock := now }.release fun
    | .time due => due ≤ now
    | _ => false

/-- After so many turns at the latest, all who have paused go on. -/
def roundSize : Nat :=
  61

/-- Runs until nothing can go on before `target`, or until `enough` holds of a world at rest. `left` is
what is left of the round. Ends in any case once the fuel is used up. -/
def driveWithin : Nat → Nat → Nat → (World → Bool) → World → World
  | 0, _, _, _, w => w
  | fuel + 1, left, target, enough, w =>
    match w.turns, left with
    | t :: turns, left + 1 => driveWithin fuel left target enough ({ w with turns }.takeTurn t)
    | _ :: _, 0 => driveWithin fuel roundSize target enough w.resume
    | [], _ =>
      if !w.paused.isEmpty then driveWithin fuel roundSize target enough w.resume
      else match w.storing with
        | f :: storing =>
          driveWithin fuel (roundSize - 1) target enough ({ w with storing }.proceed f)
        | [] =>
          if enough w then w
          else match w.nextDue? target with
            | some due => driveWithin fuel roundSize target enough (w.moveClock due)
            | none => { w with clock := target }

def drive (target : Nat) (enough : World → Bool) (w : World) : World :=
  driveWithin 1000000 roundSize target enough w

def settle (w : World) : World :=
  w.drive w.clock fun _ => false

end World

end AccountReplica
