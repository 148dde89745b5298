/-! Settings of the engine. Durations are in milliseconds. -/

namespace AccountReplica

structure Configuration where
  /-- How long an incomplete batch waits for the missing groups before a difference is polled. -/
  retryDelay : Nat
  slowThreshold : Nat
  limit : Option Int32
deriving DecidableEq

def Configuration.standard : Configuration :=
  ⟨2000, 1000, none⟩

def Configuration.isSlow (c : Configuration) (elapsed : Nat) : Bool :=
  c.slowThreshold < elapsed

end AccountReplica
