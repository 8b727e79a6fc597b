import Polycore.Processor.Configuration

/-!
# Switchable processors

A processor has named configurations that all fill the same logical slots; one of them is active.
`Processor.create` puts a processor together, `Processor.incorporate` gives every accelerated core
a timeline of its own on a board, and `Processor.switchTo` hands every slot over to another
configuration in one swap. On any error the processor stays as it was.
-/

namespace Polycore

/-- A processor. Its configurations stand in the order in which they were supplied. -/
structure Processor where
  configurations : List Configuration
  /-- name of the active configuration -/
  active : String
  isa : Isa
  /-- the timeline of every model, once the processor is part of a board -/
  timelines : Option (List (ModelId × Timeline))

/-- The first element of a list that occurs in `seen` or earlier in the list. -/
def firstRepeated? {α : Type} [DecidableEq α] (seen : List α) : List α → Option α
  | [] => none
  | a :: rest => if a ∈ seen then some a else firstRepeated? (a :: seen) rest

namespace Processor

def configuration? (processor : Processor) (name : String) : Option Configuration :=
  processor.configurations.find? (·.name = name)

def current? (processor : Processor) : Option Configuration :=
  processor.configuration? processor.active

/-- The cores of the active configuration, in the order of their slots. -/
def cores (processor : Processor) : List CoreHandle :=
  (processor.current?.map (·.cores)).getD []

/-- The models of the active configuration, in the order of their slots. -/
def models (processor : Processor) : List ModelId :=
  processor.cores.map (·.model)

def allCores (processor : Processor) : List CoreHandle :=
  processor.configurations.flatMap (·.cores)

def hasAcceleratedCores (processor : Processor) : Bool :=
  processor.allCores.any (·.accelerated)

/-- The processor is part of a board. -/
def isIncorporated (processor : Processor) : Bool :=
  processor.timelines.isSome

/-- The timeline of a model, once the processor is part of a board. -/
def timeline? (processor : Processor) (model : ModelId) : Option Timeline :=
  processor.timelines.bind (·.lookup model)

/-- Every configuration but the active one is switched out. -/
def markSwitchedOut (active : String) (configurations : List Configuration) : List Configuration :=
  configurations.map fun configuration =>
    configuration.setSwitchedOut (configuration.name != active)

/-- What keeps a configuration from sharing slots with the reference. -/
def layoutError? (reference configuration : Configuration) : Option ProcessorError :=
  if configuration.size ≠ reference.size then
    some (.slotCountMismatch configuration.name reference.size configuration.size)
  else if !configuration.sameLayout reference then
    some (.slotLayoutMismatch configuration.name reference.name)
  else none

/-- Puts a processor together. Names must be distinct, the starting name known, all slots those of
the starting configuration, the instruction set one, and no model used twice; the first of these to
fail is the error. -/
def create (configurations : List Configuration) (starting : String) :
    Except ProcessorError Processor :=
  match firstRepeated? [] (configurations.map (·.name)) with
  | some name => .error (.duplicateConfiguration name)
  | none =>
    match configurations.find? (·.name = starting) with
    | none => .error (.unknownStartingConfiguration starting)
    | some reference =>
      match configurations.findSome? (layoutError? reference) with
      | some error => .error error
      | none =>
        let isas := Isa.distinct ((configurations.flatMap (·.cores)).map (·.isa))
        if 1 < isas.length then .error (.heterogeneousIsa isas)
        else
          match firstRepeated? [] (configurations.flatMap (·.models)) with
          | some model => .error (.duplicateModel model)
          | none =>
            .ok
              { configurations := markSwitchedOut starting configurations
                active := starting
                isa := reference.isa
                timelines := none }

/-! ## Joining a board -/

/-- One isolated timeline for each core, counted from `first`. -/
def isolate (first : Nat) : List CoreHandle → Except ProcessorError (List (ModelId × Timeline))
  | [] => .ok []
  | core :: rest =>
    match Timeline.isolated? first with
    | none => .error (.timelinesExhausted first)
    | some timeline =>
      match isolate (first + 1) rest with
      | .error error => .error error
      | .ok bindings => .ok ((core.model, timeline) :: bindings)

/-- The isolated timelines of the accelerated cores of all configurations, in their order. -/
def isolatedTimelines (processor : Processor) :
    Except ProcessorError (List (ModelId × Timeline)) :=
  isolate 0 (processor.allCores.filter (·.accelerated))

/-- The processor as part of a board that put the accelerated cores on the timelines of `bindings`
and left all others on the shared one. -/
def incorporated (processor : Processor) (bindings : List (ModelId × Timeline)) : Processor :=
  { processor with
    configurations := markSwitchedOut processor.active processor.configurations
    timelines := some <| processor.allCores.map fun core =>
      (core.model, (bindings.lookup core.model).getD .shared) }

/-- What a request to a processor gives: an answer, the processor, and the board. -/
abbrev Outcome (π σ : Type) := Except ProcessorError Unit × π × σ

variable {σ : Type} [Board σ]

/-- Puts models on their timelines one after the other, up to the first refusal. -/
def assignAll : List (ModelId × Timeline) → σ → Answer σ
  | [], board => (.ok (), board)
  | (model, timeline) :: rest, board =>
    match Board.assignTimeline model timeline board with
    | (.error error, board) => (.error error, board)
    | (.ok (), board) => assignAll rest board

/-- Prepares the host if any core needs it, then puts the accelerated cores on their timelines. -/
def bindAccelerated (bindings : List (ModelId × Timeline)) (board : σ) : Answer σ :=
  if bindings.isEmpty then (.ok (), board)
  else
    match Board.enableHostAcceleration board with
    | (.error error, board) => (.error error, board)
    | (.ok (), board) => assignAll bindings board

/-- Makes the processor part of a board, once. Nothing is kept unless every binding succeeds. -/
def incorporate (processor : Processor) (board : σ) : Outcome Processor σ :=
  if processor.isIncorporated then (.error .alreadyIncorporated, processor, board)
  else
    match processor.isolatedTimelines with
    | .error error => (.error error, processor, board)
    | .ok bindings =>
      match bindAccelerated bindings board with
      | (.error error, board) => (.error (.board error), processor, board)
      | (.ok (), board) => (.ok (), processor.incorporated bindings, board)

/-! ## Switching -/

/-- The active models paired slot by slot with those of another configuration. -/
def handOver (processor : Processor) (next : Configuration) : List (ModelId × ModelId) :=
  processor.models.zip next.models

/-- The processor with another configuration active. -/
def activate (processor : Processor) (name : String) : Processor :=
  { processor with
    configurations := processor.configurations.map fun configuration =>
      if configuration.name = processor.active then configuration.setSwitchedOut true
      else if configuration.name = name then configuration.setSwitchedOut false
      else configuration
    active := name }

/-- Hands every slot over to the configuration `name`. -/
def switchTo (processor : Processor) (name : String) (board : σ) : Outcome Processor σ :=
  if !processor.isIncorporated then (.error .notIncorporated, processor, board)
  else
    match processor.configuration? name with
    | none => (.error (.unknownConfiguration name), processor, board)
    | some next =>
      if name = processor.active then (.error (.alreadyActive name), processor, board)
      else if next.size ≠ processor.cores.length then
        (.error (.slotCountMismatch name processor.cores.length next.size), processor, board)
      else
        match Board.swap (processor.handOver next) board with
        | (.error error, board) => (.error (.board error), processor, board)
        | (.ok (), board) => (.ok (), processor.activate name, board)

/-- A switch leaves the board alone or asks it for one swap. -/
theorem switchTo_board (processor : Processor) (name : String)
    (board : σ) :
    (processor.switchTo name board).2.2 = board ∨
      ∃ pairs, (processor.switchTo name board).2.2 = (Board.swap pairs board).2 := by
  unfold Processor.switchTo
  split
  · exact .inl rfl
  · split
    · exact .inl rfl
    · split
      · exact .inl rfl
      · split
        · exact .inl rfl
        · split
          · next h => exact .inr ⟨_, by rw [h]⟩
          · next h => exact .inr ⟨_, by rw [h]⟩

end Processor

end Polycore
