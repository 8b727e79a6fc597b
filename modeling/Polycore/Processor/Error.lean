import Polycore.Board.Basic
import Polycore.Isa

/-!
# Processor errors

Why a processor cannot be put together or cannot switch. A refusal of the board is passed on as it
is.
-/

namespace Polycore

inductive ProcessorError where
  | unknownStartingConfiguration (name : String)
  | duplicateConfiguration (name : String)
  | emptyConfiguration (name : String)
  | slotCountMismatch (configuration : String) (expected found : Nat)
  | duplicateSlot (configuration : String) (slot : Nat)
  | slotLayoutMismatch (configuration reference : String)
  | heterogeneousIsa (isas : List Isa)
  | duplicateModel (model : ModelId)
  | invalidCoreCount
  | timelinesExhausted (accelerated : Nat)
  | notIncorporated
  | alreadyIncorporated
  | unknownConfiguration (name : String)
  | alreadyActive (name : String)
  | board (error : BoardError)
deriving DecidableEq, Repr

namespace ProcessorError

def message : ProcessorError → String
  | unknownStartingConfiguration name =>
    "Key " ++ name ++ " cannot be found in the switchable configurations"
  | duplicateConfiguration name => "Configuration '" ++ name ++ "' is defined more than once"
  | emptyConfiguration name => "Configuration '" ++ name ++ "' has no cores"
  | slotCountMismatch configuration expected found =>
    "Configuration '" ++ configuration ++ "' has " ++ toString found ++ " cores, expected " ++
      toString expected
  | duplicateSlot configuration slot =>
    "Configuration '" ++ configuration ++ "' uses slot " ++ toString slot ++ " more than once"
  | slotLayoutMismatch configuration reference =>
    "Configuration '" ++ configuration ++ "' does not use the same slot ids as '" ++ reference ++
      "'"
  | heterogeneousIsa isas =>
    "A processor must target a single ISA, found [" ++ ", ".intercalate (isas.map Isa.label) ++ "]"
  | duplicateModel model => model.text ++ " is referenced by more than one core"
  | invalidCoreCount => "Number of cores must be a positive integer"
  | timelinesExhausted accelerated =>
    "Ran out of isolated timelines after " ++ toString accelerated ++ " accelerated cores"
  | notIncorporated => "The processor has not been incorporated"
  | alreadyIncorporated => "The processor has already been incorporated"
  | unknownConfiguration name => "Key " ++ name ++ " is not a key in the switchable configurations"
  | alreadyActive name => "Cannot swap current cores ('" ++ name ++ "') with the current cores"
  | board error => error.message

end ProcessorError

end Polycore
