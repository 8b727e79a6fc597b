import Polycore.Run.Error

/-!
# Workloads

A workload is a guest program: how many instructions it retires, which share of them is
floating-point work, and at which counts of retired instructions it raises events. The order of all
its events is `Workload.schedule`.
-/

namespace Polycore

/-- An event that the guest raises when it has retired `count` instructions. -/
structure GuestEvent where
  count : Nat
  trigger : Trigger
deriving DecidableEq, Repr

structure Workload where
  name : String
  instructions : Nat
  fpFraction : Float := 0.2
  /-- counts at which the guest raises an exit, ascending -/
  exitPoints : List Nat := []
  /-- the guest's other events, counts ascending -/
  markers : List GuestEvent := []
deriving DecidableEq, Repr

namespace Workload

/-- Events in the order of their counts; events at one count keep their order. -/
def sortByCount (events : List GuestEvent) : List GuestEvent :=
  events.mergeSort fun a b => a.count ≤ b.count

def withExitPoint (workload : Workload) (count : Nat) : Workload :=
  { workload with exitPoints := (workload.exitPoints ++ [count]).mergeSort }

/-- Adds a marker, behind those with the same count. -/
def withMarker (workload : Workload) (trigger : Trigger) (count : Nat) : Workload :=
  { workload with markers := sortByCount (workload.markers ++ [⟨count, trigger⟩]) }

def withWorkBegin (workload : Workload) (count : Nat) : Workload :=
  workload.withMarker .workBegin count

def withWorkEnd (workload : Workload) (count : Nat) : Workload :=
  workload.withMarker .workEnd count

def withCheckpoint (workload : Workload) (count : Nat) : Workload :=
  workload.withMarker .checkpoint count

def exitEvents (workload : Workload) : List GuestEvent :=
  workload.exitPoints.map fun count => ⟨count, .exit⟩

/-- All events in the order in which the guest raises them. At one count markers come before
exits. -/
def schedule (workload : Workload) : List GuestEvent :=
  sortByCount (workload.markers ++ workload.exitEvents)

/-- A share lies between 0 and 1, ends included. NaN does not. -/
def isShare (fraction : Float) : Bool :=
  0.0 ≤ fraction && fraction ≤ 1.0

/-- What is wrong with a workload: it has no instructions, its share of floating-point work is none,
or an event comes after its end. -/
def error? (workload : Workload) : Option ConfigError :=
  if workload.instructions = 0 then some (.emptyWorkload workload.name)
  else if !isShare workload.fpFraction then some (.fractionOutside workload.fpFraction)
  else
    (workload.schedule.find? (workload.instructions ≤ ·.count)).map fun event =>
      .pointPastEnd event.trigger event.count workload.name

end Workload

end Polycore
