import Polycore.Run.Handler

/-!
# Run reports

What is known of a run when it has ended: why it ended, what was delivered, and in which state it
left the cores.
-/

namespace Polycore

inductive ExitReason where
  /-- a handler, or the rule for triggers without one, stopped it -/
  | exit
  | maxTick
  /-- the guest retired all its instructions -/
  | workloadComplete
deriving DecidableEq, Repr, Inhabited

def ExitReason.label : ExitReason → String
  | exit => "exit"
  | maxTick => "max_tick"
  | workloadComplete => "workload_complete"

/-- The name on the terminal. -/
def ExitReason.name : ExitReason → String
  | exit => "Exit"
  | maxTick => "MaxTick"
  | workloadComplete => "WorkloadComplete"

/-- One event delivered to a run. -/
structure ExitRecord where
  tick : Nat
  trigger : Trigger
  action : Action
  instructions : Nat
  /-- names of the cores that were active after the event was handled -/
  activeCores : List String
deriving DecidableEq, Repr

/-- A core that was active at the end. -/
structure CoreReport where
  slot : Nat
  name : String
  model : ModelId
  accelerated : Bool
  timeline : Option Timeline
deriving DecidableEq, Repr

structure RunReport where
  /-- name of the preset that the run was made for -/
  system : Option String
  workload : String
  seed : UInt64
  exitReason : ExitReason
  finalTick : Nat
  instructions : Nat
  swaps : Nat
  memMode : MemMode
  hostAcceleration : Bool
  events : List ExitRecord
  cores : List CoreReport
  objects : List ObjectSummary
deriving DecidableEq, Repr

/-- The number of exits after which the run went on. -/
def RunReport.switches (report : RunReport) : Nat :=
  (report.events.filter fun event => event.trigger = .exit ∧ event.action = .resume).length

end Polycore
