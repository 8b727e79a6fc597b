import Polycore.Kernel.Basic

/-!
# Quanta

The kernel simulates time one quantum at a time. Every model that executes runs once, in a random
order. A model on the shared timeline runs for exactly the quantum; one on an isolated timeline may
run up to a sixteenth longer, by a random amount, and takes its own timeline along.
-/

namespace Polycore

structure QuantumStats where
  /-- instructions retired by all models -/
  instructions : Nat
  /-- tick of the shared timeline after the quantum -/
  globalTick : Nat
deriving DecidableEq, Repr

/-- Least number of ticks for one instruction; it keeps free instructions finite. -/
def minTicksPerInstruction : Float := 0.01

/-- The instructions that a model retires in some ticks. A speed that is not a number counts as the
greatest. -/
def CoreModel.instructionsIn (model : CoreModel) (ticks : Nat) (fpFraction : Float) : Nat :=
  let pace := model.ticksPerInstruction fpFraction
  let pace := if minTicksPerInstruction < pace then pace else minTicksPerInstruction
  Word.truncate (Word.toFloat ticks / pace)

def CoreObject.retire (instructions : Nat) (object : CoreObject) : CoreObject :=
  { object with
    arch := object.arch.map (·.retire instructions)
    retired := object.retired + instructions }

namespace Kernel

/-- How long a model on `timeline` runs in a quantum. -/
def drawAdvance (ticks : Nat) (timeline : Timeline) (random : Random.Stream) :
    Nat × Random.Stream :=
  if timeline.isShared then (ticks, random)
  else
    let (overshoot, random) := random.below64 (ticks / 16 + 1)
    (ticks + overshoot, random)

/-- Runs one model for a quantum and gives the instructions that it retired. -/
def runModel (ticks : Nat) (fpFraction : Float) (model : ModelId) (kernel : Kernel) :
    Nat × Kernel :=
  match kernel.object? model with
  | none => (0, kernel)
  | some object =>
    let (advance, random) := drawAdvance ticks object.timeline kernel.random
    let instructions := object.descriptor.instructionsIn advance fpFraction
    let clocks :=
      if object.timeline.isShared then kernel.clocks
      else kernel.clocks.advance object.timeline advance
    (instructions, { kernel.modifyObject model (·.retire instructions) with clocks, random })

/-- Runs models one after the other and gives the instructions that they retired together. -/
def runModels (ticks : Nat) (fpFraction : Float) : List ModelId → Kernel → Nat × Kernel
  | [], kernel => (0, kernel)
  | model :: rest, kernel =>
    let (first, kernel) := kernel.runModel ticks fpFraction model
    let (others, kernel) := runModels ticks fpFraction rest kernel
    (first + others, kernel)

/-- Runs every model that executes for one quantum. -/
def runQuantum (ticks : Nat) (fpFraction : Float) (kernel : Kernel) : QuantumStats × Kernel :=
  let (order, random) := Random.shuffle kernel.running kernel.random
  let (instructions, kernel) := runModels ticks fpFraction order { kernel with random }
  let kernel := { kernel with clocks := kernel.clocks.advanceShared ticks }
  ({ instructions, globalTick := kernel.tick }, kernel)

theorem tick_runModel (ticks : Nat) (fpFraction : Float) (model : ModelId) (kernel : Kernel) :
    (kernel.runModel ticks fpFraction model).2.tick = kernel.tick := by
  unfold runModel
  split
  · rfl
  · dsimp only [tick]
    split <;> rfl

theorem tick_runModels (ticks : Nat) (fpFraction : Float) (models : List ModelId)
    (kernel : Kernel) : (runModels ticks fpFraction models kernel).2.tick = kernel.tick := by
  induction models generalizing kernel with
  | nil => rfl
  | cons model rest ih => exact (ih _).trans (kernel.tick_runModel ticks fpFraction model)

/-- A quantum moves the shared timeline on by exactly its ticks. -/
theorem tick_runQuantum (ticks : Nat) (fpFraction : Float) (kernel : Kernel) :
    (kernel.runQuantum ticks fpFraction).2.tick = kernel.tick + ticks := by
  have h := tick_runModels ticks fpFraction (Random.shuffle kernel.running kernel.random).1
    { kernel with random := (Random.shuffle kernel.running kernel.random).2 }
  simp only [tick] at h
  simp only [runQuantum, tick, Clocks.advanceShared, h]

end Kernel

end Polycore
