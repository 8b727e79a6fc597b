import Polycore.Processor.Basic

/-!
# Pair processors

A processor with two configurations, built from pairs of cores: each pair fills one slot, the first
core on the start side and the second on the switch side. `PairProcessor.toggle` goes to the other
side.
-/

namespace Polycore

/-- A processor with a start side and a switch side. -/
structure PairProcessor where
  processor : Processor
  onStart : Bool
  /-- the memory mode asked of the board -/
  memMode : MemMode

/-- A number of slots that start on one model and switch to another. -/
structure CoreType where
  start : CoreModel
  switch : CoreModel
  count : Nat

namespace PairProcessor

/-- Name of the configuration that the processor starts on. -/
def startName : String := "start"

/-- Name of the configuration on the other side. -/
def switchName : String := "switch"

/-- Puts a processor together from one pair of cores for each slot. The first pair's start core
decides the memory mode. -/
def ofPairs (pairs : List (CoreHandle × CoreHandle)) : Except ProcessorError PairProcessor :=
  match pairs with
  | [] => .error (.emptyConfiguration startName)
  | (first, _) :: _ =>
    match Configuration.ofCores startName (pairs.map (·.1)) with
    | .error error => .error error
    | .ok start =>
      match Configuration.ofCores switchName (pairs.map (·.2)) with
      | .error error => .error error
      | .ok switch =>
        match Processor.create [start, switch] startName with
        | .error error => .error error
        | .ok processor =>
          .ok { processor, onStart := true, memMode := first.descriptor.memMode }

/-! ## From core types -/

/-- The models of all slots in order, start and switch side together. -/
def expand (types : List CoreType) : List (CoreModel × CoreModel) :=
  types.flatMap fun type => List.replicate type.count (type.start, type.switch)

/-- Asks for a model for each slot in turn, counted from `first`, and makes the handles. -/
def instantiateAll {τ : Type} (instantiate : CoreModel → Nat → τ → ModelId × τ) (isa : Isa)
    (first : Nat) : List CoreModel → τ → List CoreHandle × τ
  | [], state => ([], state)
  | descriptor :: rest, state =>
    let (model, state) := instantiate descriptor first state
    let (handles, state) := instantiateAll instantiate isa (first + 1) rest state
    (CoreHandle.create first isa model descriptor :: handles, state)

/-- Puts a processor together from core types. Slots are numbered through all types, and models are
asked for on the start side first. -/
def ofCoreTypes {τ : Type} (instantiate : CoreModel → Nat → τ → ModelId × τ)
    (types : List CoreType) (isa : Isa) (state : τ) : Except ProcessorError PairProcessor × τ :=
  if types.any (·.count == 0) then (.error .invalidCoreCount, state)
  else
    let slots := expand types
    let (start, state) := instantiateAll instantiate isa 0 (slots.map (·.1)) state
    let (switch, state) := instantiateAll instantiate isa 0 (slots.map (·.2)) state
    (ofPairs (start.zip switch), state)

/-! ## On a board -/

variable {σ : Type} [Board σ]

/-- The memory mode that the board is asked for: with a coherence protocol, atomic accesses go past
the caches. -/
def requestedMode (processor : PairProcessor) (board : σ) : MemMode :=
  if Board.usesRuby board && processor.memMode == .atomic then .atomicNoncaching
  else processor.memMode

/-- Makes the processor part of a board and asks for its memory mode. -/
def incorporate (processor : PairProcessor) (board : σ) :
    Processor.Outcome PairProcessor σ :=
  match processor.processor.incorporate board with
  | (.error error, inner, board) => (.error error, { processor with processor := inner }, board)
  | (.ok (), inner, board) =>
    let mode := processor.requestedMode board
    (.ok (), { processor with processor := inner, memMode := mode }, Board.setMemMode mode board)

def otherSide (processor : PairProcessor) : String :=
  if processor.onStart then switchName else startName

def toggle (processor : PairProcessor) (board : σ) : Processor.Outcome PairProcessor σ :=
  match processor.processor.switchTo processor.otherSide board with
  | (.error error, inner, board) => (.error error, { processor with processor := inner }, board)
  | (.ok (), inner, board) =>
    (.ok (), { processor with processor := inner, onStart := !processor.onStart }, board)

end PairProcessor

end Polycore
