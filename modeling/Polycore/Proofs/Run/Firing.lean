import Polycore.Proofs.Kernel.Clocks
import Polycore.Proofs.Session.Basic
import Polycore.Run.Simulator

/-!
# Firing a trigger

A firing that ends in an action leaves one record, and the record tells how the simulator stands
afterwards (`Simulator.Fires`): its tick was read before the event was handled and its instructions
and cores after it, but no handler moves the clock or retires an instruction.
-/

namespace Polycore

/-- What every move of the machine keeps, a firing of a handler keeps. -/
theorem Handler.fire_keeps {P : Session → Prop}
    (made : ∀ {session : Session} move, P session → P (session.perform (.move move)))
    (handler : Handler) {machine : Machine} {kernel : Kernel} (h : P { machine, kernel }) :
    P { machine := (handler.fire machine kernel).machine
        kernel := (handler.fire machine kernel).kernel } := by
  induction handler generalizing machine kernel with
  | always action => exact h
  | finish result next => exact h
  | make move next ih => exact ih _ (made move h)
  | look next ih => exact ih machine kernel h

namespace Simulator

variable {sim next : Simulator} {trigger : Trigger} {action : Action}

/-- The machine of a simulator and its kernel. -/
def session (sim : Simulator) : Session where
  machine := sim.machine
  kernel := sim.kernel

theorem handle_keeps {P : Session → Prop}
    (made : ∀ {session : Session} move, P session → P (session.perform (.move move)))
    (sim : Simulator) (h : P sim.session) (trigger : Trigger) :
    P (sim.handle trigger).2.session := by
  unfold handle
  split
  · exact h
  · next handler _ => exact handler.fire_keeps made h

/-- What a synchronization and every move of the machine keep, a firing keeps, whatever comes of
it. -/
theorem fire_keeps {P : Session → Prop}
    (synchronized : ∀ {session : Session}, P session →
      P (session.perform (.kernel .synchronize rfl)))
    (made : ∀ {session : Session} move, P session → P (session.perform (.move move)))
    (h : P sim.session) (trigger : Trigger) : P (sim.fire trigger).2.session := by
  let synced : Simulator := { sim with kernel := sim.kernel.synchronize.2 }
  have handled : P (synced.handle trigger).2.session :=
    handle_keeps made synced (synchronized h) trigger
  unfold fire
  dsimp only
  split
  · next failed =>
    rw [failed] at handled
    exact handled
  · next passed =>
    rw [passed] at handled
    exact handled

/-- The simulator once the handler of a trigger has gone through a firing. -/
def handled (sim : Simulator) (trigger : Trigger) (fired : Fired) : Simulator :=
  { sim with
    machine := fired.machine
    kernel := fired.kernel
    handlers := fun other => if other = trigger then some fired.handler else sim.handlers other }

theorem handle_of_none (h : sim.handlers trigger = none) :
    sim.handle trigger = (.ok trigger.defaultAction, sim) := by
  rw [handle, h]

theorem handle_of_some {handler : Handler} (h : sim.handlers trigger = some handler) :
    sim.handle trigger = ((handler.fire sim.machine sim.kernel).result,
      sim.handled trigger (handler.fire sim.machine sim.kernel)) := by
  rw [handle, h]
  rfl

theorem handle_frame (sim : Simulator) (trigger : Trigger) :
    (sim.handle trigger).2.workload = sim.workload ∧ (sim.handle trigger).2.config = sim.config ∧
      (sim.handle trigger).2.events = sim.events := by
  unfold handle
  split
  · exact ⟨rfl, rfl, rfl⟩
  · exact ⟨rfl, rfl, rfl⟩

theorem fire_of_handle_eq_ok
    (h : handle { sim with kernel := sim.kernel.synchronize.2 } trigger = (.ok action, next)) :
    sim.fire trigger = (.ok action, next.record sim.kernel.clocks.horizon trigger action) := by
  rw [fire]
  dsimp only
  rw [h]
  rfl

theorem fire_of_handle_eq_error {error : RunError}
    (h : handle { sim with kernel := sim.kernel.synchronize.2 } trigger = (.error error, next)) :
    sim.fire trigger = (.error error, next) := by
  rw [fire]
  dsimp only
  rw [h]

/-- A firing replaces the machine, the kernel and the handlers. It adds a record to the events if it
ends in an action. -/
theorem fire_frame (sim : Simulator) (trigger : Trigger) :
    (sim.fire trigger).2.workload = sim.workload ∧ (sim.fire trigger).2.config = sim.config ∧
      ((∃ error, (sim.fire trigger).1 = .error error ∧ (sim.fire trigger).2.events = sim.events) ∨
        ∃ action record, (sim.fire trigger).1 = .ok action ∧
          (sim.fire trigger).2.events = sim.events ++ [record]) := by
  let synced : Simulator := { sim with kernel := sim.kernel.synchronize.2 }
  obtain ⟨workload, config, events⟩ := synced.handle_frame trigger
  rcases handled : synced.handle trigger with ⟨error | action, next⟩
  · rw [handled] at workload config events
    rw [fire_of_handle_eq_error handled]
    exact ⟨workload, config, .inl ⟨error, rfl, events⟩⟩
  · rw [handled] at workload config events
    rw [fire_of_handle_eq_ok handled]
    exact ⟨workload, config, .inr ⟨action, _, rfl, congrArg (· ++ _) events⟩⟩

/-! ## The record of a firing -/

theorem getElem?_concat_eq_some_iff {α : Type} {elements : List α} {a b : α} {place : Nat} :
    (elements ++ [a])[place]? = some b ↔
      elements[place]? = some b ∨ place = elements.length ∧ a = b := by
  grind

/-- The record of an event after which the simulator stands as it does. -/
def entry (sim : Simulator) (trigger : Trigger) (action : Action) : ExitRecord where
  tick := sim.kernel.tick
  trigger := trigger
  action := action
  instructions := sim.kernel.totalInstructions
  activeCores := sim.activeCores

/-- What a firing comes to that ends in an action. -/
structure Fires (sim : Simulator) (trigger : Trigger) (action : Action) (next : Simulator) :
    Prop where
  fire : sim.fire trigger = (.ok action, next)
  events : next.events = sim.events ++ [next.entry trigger action]
  total : next.kernel.totalInstructions = sim.kernel.totalInstructions
  tick : sim.kernel.tick ≤ next.kernel.tick
  workload : next.workload = sim.workload
  config : next.config = sim.config

/-- Once the clocks are in step, moves do not touch them, and no move retires an instruction. -/
theorem move_keeps_clocks_and_total {clocks : Clocks} (step : clocks.synchronize = clocks)
    {total : Nat} {session : Session} (move : Move)
    (h : session.kernel.clocks = clocks ∧ session.kernel.totalInstructions = total) :
    (session.perform (.move move)).kernel.clocks = clocks ∧
      (session.perform (.move move)).kernel.totalInstructions = total := by
  refine Session.kernel_move_keeps
    (P := fun kernel => kernel.clocks = clocks ∧ kernel.totalInstructions = total)
    (fun pairs ⟨hclocks, htotal⟩ => ?_) (fun reason => id) h move
  refine ⟨?_, (Kernel.totalInstructions_swap _ pairs).trans htotal⟩
  rcases session.kernel.clocks_swap pairs with same | synced
  · exact same.trans hclocks
  · exact synced.trans (hclocks ▸ step)

theorem fires_of_fire (h : sim.fire trigger = (.ok action, next)) :
    Fires sim trigger action next := by
  let synced : Simulator := { sim with kernel := sim.kernel.synchronize.2 }
  have kept : (synced.handle trigger).2.kernel.clocks = synced.kernel.clocks ∧
      (synced.handle trigger).2.kernel.totalInstructions = synced.kernel.totalInstructions :=
    handle_keeps
      (P := fun session => session.kernel.clocks = synced.kernel.clocks ∧
        session.kernel.totalInstructions = synced.kernel.totalInstructions)
      (move_keeps_clocks_and_total sim.kernel.clocks.synchronize_synchronize) synced ⟨rfl, rfl⟩
      trigger
  have frame := synced.handle_frame trigger
  have later := sim.tick_le_fire trigger
  rw [h] at later
  have hfire := h
  unfold fire at h
  dsimp only at h
  split at h
  · cases h
  · next passed =>
    rw [passed] at kept frame
    cases h
    refine ⟨hfire, ?_, kept.2, later, frame.1, frame.2.1⟩
    have tick : sim.kernel.synchronize.1 = Kernel.tick _ := (congrArg Clocks.shared kept.1).symm
    rw [record, frame.2.2, tick]
    rfl

end Simulator

end Polycore
