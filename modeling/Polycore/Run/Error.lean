import Polycore.Decimal.Layout
import Polycore.Processor.Error
import Polycore.Trigger

/-!
# Run errors

Why a run is refused or ends early.
-/

namespace Polycore

/-- What is wrong with the description of a run. -/
inductive ConfigError where
  | emptyQuantum
  | cutOffTooEarly (maxTicks quantum : Nat)
  | emptyWorkload (workload : String)
  | fractionOutside (fraction : Float)
  | pointPastEnd (trigger : Trigger) (count : Nat) (workload : String)
  /-- a handler's own complaint -/
  | complaint (text : String)
deriving DecidableEq, Repr

/-- Why a run has no report. -/
inductive RunError where
  | processor (error : ProcessorError)
  | board (error : BoardError)
  | config (error : ConfigError)
deriving DecidableEq, Repr

/-- Floats in messages have the fewest digits and no exponent, and whole numbers have no point. -/
def messageLayout : Decimal.Layout where
  positional := none
  pointZero := false
  tie := .up

def messageFloat (x : Float) : String :=
  if x.isNaN then "NaN"
  else if x.isInf then (if x < 0.0 then "-inf" else "inf")
  else String.ofList (messageLayout.literal x).write

def ConfigError.message : ConfigError → String
  | emptyQuantum => "quantum must be at least one tick"
  | cutOffTooEarly maxTicks quantum =>
    "max ticks " ++ toString maxTicks ++ " is shorter than one quantum (" ++ toString quantum ++ ")"
  | emptyWorkload workload => "workload '" ++ workload ++ "' is empty"
  | fractionOutside fraction =>
    "floating-point fraction " ++ messageFloat fraction ++ " is outside [0, 1]"
  | pointPastEnd trigger count workload =>
    trigger.name ++ " point " ++ toString count ++ " is past the end of workload '" ++ workload ++
      "'"
  | complaint text => text

def RunError.message : RunError → String
  | processor error => error.message
  | board error => error.message
  | config error => "Invalid configuration: " ++ error.message

end Polycore
