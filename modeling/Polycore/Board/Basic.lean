import Polycore.Ident
import Polycore.MemMode

/-!
# Boards

A board owns core models and can hand logical cores from one model to another. This module holds
what a board may refuse (`BoardError`), the requests that a processor makes of any board (`Board`),
and the least board that grants all of them (`PlainBoard`).

A request takes the board's state and gives an answer together with the next state, refused or not,
so that a board may remember a refusal.
-/

namespace Polycore

inductive BoardError where
  /-- the board has no such model -/
  | unknownModel (model : ModelId)
  /-- a model that is to hand over does not execute -/
  | notRunning (model : ModelId)
  /-- a model that is to take over executes already -/
  | alreadyRunning (model : ModelId)
  /-- a model occurs twice in one swap -/
  | duplicateModel (model : ModelId)
  /-- an isolated timeline serves another model -/
  | timelineInUse (timeline : Timeline) (owner : ModelId)
  /-- the machine has not been started -/
  | notBooted
  /-- the machine was started before -/
  | alreadyBooted
  /-- the swap itself failed -/
  | swapFailed (reason : String)
deriving DecidableEq, Repr

def BoardError.message : BoardError → String
  | unknownModel model => "Unknown model: " ++ model.text
  | notRunning model => "Model " ++ model.text ++ " is not running"
  | alreadyRunning model => "Model " ++ model.text ++ " is already running"
  | duplicateModel model => "Model " ++ model.text ++ " appears more than once in the swap"
  | timelineInUse timeline owner => timeline.text ++ " is already bound to " ++ owner.text
  | notBooted => "Machine has not been booted"
  | alreadyBooted => "Machine has already been booted"
  | swapFailed reason => "Swap failed: " ++ reason

/-- The answer to a request, and the state of the board after it. -/
abbrev Answer (σ : Type) := Except BoardError Unit × σ

/-- What a processor asks of a board with states `σ`. -/
class Board (σ : Type) where
  /-- Hands every first model's core to the second model of its pair, all at once. -/
  swap : List (ModelId × ModelId) → σ → Answer σ
  /-- Puts a model, and all that belongs to it, on a timeline. -/
  assignTimeline : ModelId → Timeline → σ → Answer σ
  /-- Prepares the host for accelerated models. -/
  enableHostAcceleration : σ → Answer σ := fun state => (.ok (), state)
  /-- The caches run a coherence protocol. -/
  usesRuby : σ → Bool := fun _ => false
  /-- Sets the mode of the memory system. -/
  setMemMode : MemMode → σ → σ := fun _ state => state

/-- The board that grants every request and remembers none. -/
structure PlainBoard where
deriving DecidableEq, Repr

instance : Board PlainBoard where
  swap _ board := (.ok (), board)
  assignTimeline _ _ board := (.ok (), board)

end Polycore
