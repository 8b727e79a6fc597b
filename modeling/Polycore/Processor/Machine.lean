import Polycore.Processor.Pair

/-!
# Machines

A machine is what a run drives: a processor that switches by name, or a pair that toggles.
-/

namespace Polycore

inductive Machine where
  | switchable (processor : Processor)
  | pair (processor : PairProcessor)

namespace Machine

/-- The processor, a pair's inner one. -/
def processor : Machine → Processor
  | switchable processor => processor
  | pair processor => processor.processor

variable {σ : Type} [Board σ]

def incorporate (machine : Machine) (board : σ) : Processor.Outcome Machine σ :=
  match machine with
  | switchable processor =>
    let (answer, processor, board) := processor.incorporate board
    (answer, switchable processor, board)
  | pair processor =>
    let (answer, processor, board) := processor.incorporate board
    (answer, pair processor, board)

/-- Goes to the configuration `name`; a pair has one place to go to, whatever the name. -/
def switchTo (machine : Machine) (name : String) (board : σ) : Processor.Outcome Machine σ :=
  match machine with
  | switchable processor =>
    let (answer, processor, board) := processor.switchTo name board
    (answer, switchable processor, board)
  | pair processor =>
    let (answer, processor, board) := processor.toggle board
    (answer, pair processor, board)

/-- Goes to a pair's other side; for any other processor that is the configuration without a
name. -/
def toggle (machine : Machine) (board : σ) : Processor.Outcome Machine σ :=
  machine.switchTo "" board

/-- A switch leaves the board alone or asks it for one swap. -/
theorem switchTo_board (machine : Machine) (name : String)
    (board : σ) :
    (machine.switchTo name board).2.2 = board ∨
      ∃ pairs, (machine.switchTo name board).2.2 = (Board.swap pairs board).2 := by
  cases machine with
  | switchable processor => exact processor.switchTo_board name board
  | pair pair =>
    have h := pair.processor.switchTo_board pair.otherSide board
    simp only [Machine.switchTo, PairProcessor.toggle]
    split
    · next eq => simpa only [eq] using h
    · next eq => simpa only [eq] using h

end Machine

end Polycore
