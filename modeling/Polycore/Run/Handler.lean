import Polycore.Kernel.Quantum
import Polycore.Processor.Machine
import Polycore.Run.Error

/-!
# Exit handlers

A handler says what is to be done whenever its trigger fires. It is a strategy: it makes moves on
the machine, goes on by their outcomes, and ends every firing with an action or an error
(`Handler.fire`). What it is from the next firing on is a part of it, so that a handler may count
its firings or remember what it met. A run fires finitely many triggers, so a tree of this type can
do whatever any handler that returns does in a run.
-/

namespace Polycore

inductive Action where
  | resume
  | stop
deriving DecidableEq, Repr, Inhabited

def Action.label : Action → String
  | resume => "continue"
  | stop => "stop"

/-- What becomes of a run when a trigger without a handler fires. -/
def Trigger.defaultAction : Trigger → Action
  | exit => .stop
  | maxTick => .stop
  | _ => .resume

/-- What a handler can do to the machine. -/
inductive Move where
  | switchTo (name : String)
  | toggle
  /-- makes the board refuse the next swap -/
  | armSwap (reason : String)
deriving DecidableEq, Repr

/-- The machine makes a move on its kernel. -/
def Move.perform (machine : Machine) (kernel : Kernel) :
    Move → Processor.Outcome Machine Kernel
  | switchTo name => machine.switchTo name kernel
  | toggle => machine.toggle kernel
  | armSwap reason => (.ok (), machine, kernel.failNextSwap reason)

/-- What is to be done at this firing and at every later one. -/
inductive Handler where
  /-- gives one answer at every firing -/
  | always (action : Action)
  /-- ends this firing; `next` is the handler from the next one on -/
  | finish (result : Except RunError Action) (next : Handler)
  /-- makes a move and goes on by its outcome -/
  | make (move : Move) (next : Except ProcessorError Unit → Handler)
  /-- goes on by how the machine and its kernel stand -/
  | look (next : Machine → Kernel → Handler)

structure Fired where
  result : Except RunError Action
  /-- the handler from the next firing on -/
  handler : Handler
  machine : Machine
  kernel : Kernel

namespace Handler

def fire : Handler → Machine → Kernel → Fired
  | always action, machine, kernel =>
    { result := .ok action, handler := always action, machine, kernel }
  | finish result next, machine, kernel => { result, handler := next, machine, kernel }
  | make move next, machine, kernel =>
    let (outcome, machine, kernel) := move.perform machine kernel
    (next outcome).fire machine kernel
  | look next, machine, kernel => (next machine kernel).fire machine kernel

/-! ## Handlers on offer -/

/-- Ends a firing after a move: the run goes on, unless the move was refused. -/
def goOn (outcome : Except ProcessorError Unit) (next : Handler) : Handler :=
  finish ((outcome.map fun () => .resume).mapError .processor) next

/-- Toggles the machine at the first `switches` firings and then stops the run. -/
def toggleTimes : (switches : Nat) → Handler
  | 0 => always .stop
  | switches + 1 => make .toggle fun outcome => goOn outcome (toggleTimes switches)

/-- Switches through the named configurations, one at each firing, and then stops the run. -/
def switchThrough : (names : List String) → Handler
  | [] => always .stop
  | name :: names => make (.switchTo name) fun outcome => goOn outcome (switchThrough names)

end Handler

/-! ## Time does not go back -/

theorem Machine.tick_le_switchTo (machine : Machine) (name : String) (kernel : Kernel) :
    kernel.tick ≤ (machine.switchTo name kernel).2.2.tick := by
  rcases machine.switchTo_board name kernel with h | ⟨pairs, h⟩
  · exact Nat.le_of_eq (congrArg Kernel.tick h.symm)
  · rw [h]; exact kernel.tick_le_swap pairs

theorem Move.tick_le_perform (move : Move) (machine : Machine) (kernel : Kernel) :
    kernel.tick ≤ (move.perform machine kernel).2.2.tick := by
  cases move with
  | switchTo name => exact machine.tick_le_switchTo name kernel
  | toggle => exact machine.tick_le_switchTo "" kernel
  | armSwap reason => exact Nat.le_refl _

theorem Handler.tick_le_fire (handler : Handler) (machine : Machine) (kernel : Kernel) :
    kernel.tick ≤ (handler.fire machine kernel).kernel.tick := by
  induction handler generalizing machine kernel with
  | always action => exact Nat.le_refl _
  | finish result next => exact Nat.le_refl _
  | make move next ih => exact Nat.le_trans (move.tick_le_perform machine kernel) (ih _ _ _)
  | look next ih => exact ih _ _ _ _

end Polycore
