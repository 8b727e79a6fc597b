import Polycore.Run.Error

/-!
# Run configurations

How a run is paced and what its board is like. `RunConfig.pace` is the check that every run makes
first; what it gives back carries the fact that the run moves on.
-/

namespace Polycore

/-- The description of a run, apart from the guest program. -/
structure RunConfig where
  seed : UInt64 := 42
  /-- ticks simulated between two looks at the guest's events -/
  quantum : Nat := 10000
  /-- tick at which the run is cut off -/
  maxTicks : Nat := 1000000000
  /-- the board's caches run a coherence protocol -/
  ruby : Bool := true
  isa : Isa := .x86
  /-- number of exit events that switch the processor before one ends the run -/
  switches : Nat := 0
deriving DecidableEq, Repr

/-- A pace that a run can keep. -/
structure Pace where
  quantum : Nat
  maxTicks : Nat
  quantum_pos : 0 < quantum
  quantum_le : quantum ≤ maxTicks

/-- The pace of a configuration: at least one tick in a quantum, and at least one quantum before the
run is cut off. -/
def RunConfig.pace (config : RunConfig) : Except ConfigError Pace :=
  if zero : config.quantum = 0 then .error .emptyQuantum
  else if short : config.maxTicks < config.quantum then
    .error (.cutOffTooEarly config.maxTicks config.quantum)
  else .ok ⟨config.quantum, config.maxTicks, Nat.pos_of_ne_zero zero, Nat.le_of_not_lt short⟩

end Polycore
