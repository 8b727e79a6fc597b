import Polycore.Run.Config
import Polycore.Run.Report
import Polycore.Run.Workload

/-!
# Runs

A simulator drives a machine on its kernel until an event ends the run. `Simulator.run` makes the
machine part of the board, boots it (`Simulator.start`), and then takes one turn after the other: a
turn simulates a quantum and delivers the guest's events that are due after it (`Simulator.turn`).
The run ends because every turn brings the shared timeline at least a quantum closer to the cut-off
(`Simulator.tick_of_turn_eq_goesOn`): a quantum moves it on, and nothing moves it back.
-/

namespace Polycore

/-- A machine on a kernel with a guest program, and what is to be done at its events. -/
structure Simulator where
  machine : Machine
  kernel : Kernel
  workload : Workload
  config : RunConfig
  handlers : Trigger → Option Handler := fun _ => none
  /-- the events delivered so far, oldest first -/
  events : List ExitRecord := []

/-- What came of delivering the events that are due: one of them stopped the run, or these are
still to come. -/
inductive Delivery where
  | stopped
  | passed (pending : List GuestEvent)

/-- What came of a turn: the run ended, or it goes on with the events still to come. -/
inductive Turn where
  | ended (result : Except RunError ExitReason) (sim : Simulator)
  | goesOn (pending : List GuestEvent) (sim : Simulator)

namespace Simulator

def activeCores (sim : Simulator) : List String :=
  sim.machine.processor.cores.map (·.name)

/-- Keeps a record of an event, as things stand after it was handled. -/
def record (sim : Simulator) (tick : Nat) (trigger : Trigger) (action : Action) : Simulator :=
  { sim with
    events := sim.events ++
      [{ tick, trigger, action
         instructions := sim.kernel.totalInstructions
         activeCores := sim.activeCores }] }

/-- Takes the handler of a trigger through one firing. -/
def handle (sim : Simulator) (trigger : Trigger) : Except RunError Action × Simulator :=
  match sim.handlers trigger with
  | none => (.ok trigger.defaultAction, sim)
  | some handler =>
    let fired := handler.fire sim.machine sim.kernel
    (fired.result,
      { sim with
        machine := fired.machine
        kernel := fired.kernel
        handlers := fun other =>
          if other = trigger then some fired.handler else sim.handlers other })

/-- Fires a trigger: all timelines are serialized, the event is handled and recorded. -/
def fire (sim : Simulator) (trigger : Trigger) : Except RunError Action × Simulator :=
  let (tick, kernel) := sim.kernel.synchronize
  match handle { sim with kernel } trigger with
  | (.error error, sim) => (.error error, sim)
  | (.ok action, sim) => (.ok action, sim.record tick trigger action)

/-- Fires the events that are due when `retired` instructions have been retired, up to one that
stops the run. -/
def deliver (retired : Nat) : List GuestEvent → Simulator → Except RunError Delivery × Simulator
  | [], sim => (.ok (.passed []), sim)
  | event :: rest, sim =>
    if retired < event.count then (.ok (.passed (event :: rest)), sim)
    else
      match sim.fire event.trigger with
      | (.error error, sim) => (.error error, sim)
      | (.ok .stop, sim) => (.ok .stopped, sim)
      | (.ok .resume, sim) => deliver retired rest sim

def runQuantum (sim : Simulator) (ticks : Nat) : Simulator :=
  { sim with kernel := (sim.kernel.runQuantum ticks sim.workload.fpFraction).2 }

theorem tick_le_handle (sim : Simulator) (trigger : Trigger) :
    sim.kernel.tick ≤ (sim.handle trigger).2.kernel.tick := by
  unfold handle
  split
  · exact Nat.le_refl _
  · next handler _ => exact handler.tick_le_fire sim.machine sim.kernel

theorem tick_le_fire (sim : Simulator) (trigger : Trigger) :
    sim.kernel.tick ≤ (sim.fire trigger).2.kernel.tick := by
  have synced := sim.kernel.tick_le_synchronize
  have handled := tick_le_handle { sim with kernel := sim.kernel.synchronize.2 } trigger
  unfold fire
  dsimp only
  split
  · next h => rw [h] at handled; exact Nat.le_trans synced handled
  · next h => rw [h] at handled; exact Nat.le_trans synced handled

theorem tick_le_deliver (retired : Nat) (pending : List GuestEvent) (sim : Simulator) :
    sim.kernel.tick ≤ (deliver retired pending sim).2.kernel.tick := by
  induction pending generalizing sim with
  | nil => exact Nat.le_refl _
  | cons event rest ih =>
    have fired := sim.tick_le_fire event.trigger
    unfold deliver
    split
    · exact Nat.le_refl _
    · split
      · next h => rw [h] at fired; exact fired
      · next h => rw [h] at fired; exact fired
      · next h => rw [h] at fired; exact Nat.le_trans fired (ih _)

/-- The end of the workload is one more exit of the guest. -/
def complete (sim : Simulator) : Except RunError ExitReason × Simulator :=
  match sim.fire .exit with
  | (.error error, sim) => (.error error, sim)
  | (.ok .stop, sim) => (.ok .exit, sim)
  | (.ok .resume, sim) => (.ok .workloadComplete, sim)

/-- Ends the run at the cut-off, whatever a handler says to it. -/
def cutOff (sim : Simulator) : Except RunError ExitReason × Simulator :=
  match sim.fire .maxTick with
  | (.error error, sim) => (.error error, sim)
  | (.ok _, sim) => (.ok .maxTick, sim)

/-- One turn of the run: the cut-off, or a quantum, the events that are due after it, and the end of
the workload. -/
def turn (pace : Pace) (pending : List GuestEvent) (sim : Simulator) : Turn :=
  if pace.maxTicks ≤ sim.kernel.tick then .ended sim.cutOff.1 sim.cutOff.2
  else
    let ran := sim.runQuantum pace.quantum
    let retired := ran.kernel.totalInstructions
    match deliver retired pending ran with
    | (.error error, sim) => .ended (.error error) sim
    | (.ok .stopped, sim) => .ended (.ok .exit) sim
    | (.ok (.passed left), sim) =>
      if sim.workload.instructions ≤ retired then .ended sim.complete.1 sim.complete.2
      else .goesOn left sim

/-- A turn after which the run goes on began before the cut-off and took at least a quantum. -/
theorem tick_of_turn_eq_goesOn {pace : Pace} {pending left : List GuestEvent}
    {sim next : Simulator} (h : sim.turn pace pending = .goesOn left next) :
    sim.kernel.tick < pace.maxTicks ∧ sim.kernel.tick + pace.quantum ≤ next.kernel.tick := by
  unfold turn at h
  split at h
  · cases h
  · next early =>
    refine ⟨Nat.lt_of_not_le early, ?_⟩
    have delivered := tick_le_deliver (sim.runQuantum pace.quantum).kernel.totalInstructions pending
      (sim.runQuantum pace.quantum)
    have quantum : (sim.runQuantum pace.quantum).kernel.tick = sim.kernel.tick + pace.quantum :=
      Kernel.tick_runQuantum _ _ _
    dsimp only at h
    split at h
    · cases h
    · cases h
    · next passed =>
      rw [passed, quantum] at delivered
      split at h
      · cases h
      · cases h
        exact delivered

/-- Takes turns until the run ends. -/
def loop (pace : Pace) (pending : List GuestEvent) (sim : Simulator) :
    Except RunError ExitReason × Simulator :=
  match _ : sim.turn pace pending with
  | .ended result sim => (result, sim)
  | .goesOn left next => loop pace left next
termination_by pace.maxTicks - sim.kernel.tick
decreasing_by
  have := tick_of_turn_eq_goesOn ‹sim.turn pace pending = _›
  have := pace.quantum_pos
  omega

/-- What is known of the run when it has ended. -/
def report (sim : Simulator) (exitReason : ExitReason) : RunReport :=
  { system := none
    workload := sim.workload.name
    seed := sim.config.seed
    exitReason
    finalTick := sim.kernel.tick
    instructions := sim.kernel.totalInstructions
    swaps := sim.kernel.swaps
    memMode := sim.kernel.memMode
    hostAcceleration := sim.kernel.hostAcceleration
    events := sim.events
    cores := sim.machine.processor.cores.map fun core =>
      { slot := core.slot
        name := core.name
        model := core.model
        accelerated := core.accelerated
        timeline := sim.kernel.timeline? core.model }
    objects := sim.kernel.summaries }

/-- Checks the run, makes the machine part of its board and boots its active cores. -/
def start (sim : Simulator) : Except RunError Pace × Simulator :=
  match sim.config.pace with
  | .error error => (.error (.config error), sim)
  | .ok pace =>
    match sim.workload.error? with
    | some error => (.error (.config error), sim)
    | none =>
      match sim.machine.incorporate sim.kernel with
      | (.error error, machine, kernel) =>
        (.error (.processor error), { sim with machine, kernel })
      | (.ok (), machine, kernel) =>
        match kernel.boot machine.processor.models with
        | (.error error, kernel) => (.error (.board error), { sim with machine, kernel })
        | (.ok (), kernel) => (.ok pace, { sim with machine, kernel })

/-- Runs the guest program from boot to an event that ends the run. -/
def run (sim : Simulator) : Except RunError RunReport × Simulator :=
  match sim.start with
  | (.error error, sim) => (.error error, sim)
  | (.ok pace, sim) =>
    match loop pace sim.workload.schedule sim with
    | (.error error, sim) => (.error error, sim)
    | (.ok reason, sim) => (.ok (sim.report reason), sim)

end Simulator

end Polycore
