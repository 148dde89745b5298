import AccountReplica.Engine.Report
import AccountReplica.Engine.Start

/-! Steps of the engine. After each command and each report the next operation is started, and it is
published whether the engine is catching up. -/

namespace AccountReplica

inductive Input
  | command (c : Command)
  | report (id : OperationId) (r : Report)

namespace Engine

def receive (e : Engine) : Input → Engine
  | .command c => e.command c
  | .report id r => e.report id r

def step (e : Engine) (i : Input) : Engine :=
  (e.receive i).startFirst.refreshUpdating

def stop (e : Engine) : Engine :=
  e.cancelTimer

def takeEffects (e : Engine) : List Effect × Engine :=
  (e.effects, { e with effects := [] })

end Engine

end AccountReplica
