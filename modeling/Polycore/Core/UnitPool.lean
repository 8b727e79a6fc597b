import Polycore.Core.OpClass

/-!
# Pools of functional units

What the functional units of an out-of-order core execute, how many there are, and how fast. The
questions that timing asks of a pool are `UnitPool.unitsFor` and `UnitPool.latency?`.
-/

namespace Polycore

/-- How a functional unit executes one class of instructions. -/
structure Operation where
  opClass : OpClass
  /-- cycles from issue to result -/
  latency : Nat := 1
  /-- a new operation can issue every cycle -/
  pipelined : Bool := true
deriving DecidableEq, Repr

/-- A group of identical functional units. -/
structure FunctionalUnit where
  name : String
  count : Nat
  operations : List Operation
deriving DecidableEq, Repr

/-- How the unit executes a class, if it does; the first entry for the class counts. -/
def FunctionalUnit.operation? (unit : FunctionalUnit) (opClass : OpClass) : Option Operation :=
  unit.operations.find? (·.opClass = opClass)

/-- The functional units of an out-of-order core. -/
structure UnitPool where
  units : List FunctionalUnit
deriving DecidableEq, Repr

namespace UnitPool

/-- The number of units that execute a class. -/
def unitsFor (pool : UnitPool) (opClass : OpClass) : Nat :=
  ((pool.units.filter fun unit => (unit.operation? opClass).isSome).map (·.count)).foldr (· + ·) 0

/-- The least latency of a class among the units that are there at all. -/
def latency? (pool : UnitPool) (opClass : OpClass) : Option Nat :=
  (((pool.units.filter (0 < ·.count)).filterMap (·.operation? opClass)).map (·.latency)).min?

/-- The wide pool that the big and the small out-of-order cores share. Division loops over
single-cycle steps that block their unit. -/
def wide : UnitPool :=
  { units :=
    [ ⟨"IntALU", 6, [{ opClass := .intAlu }]⟩,
      ⟨"IntMultDiv", 2,
        [{ opClass := .intMult, latency := 3 }, { opClass := .intDiv, pipelined := false }]⟩,
      ⟨"FP_ALU", 4,
        [{ opClass := .floatAdd, latency := 2 }, { opClass := .floatCmp, latency := 2 },
          { opClass := .floatCvt, latency := 2 }]⟩,
      ⟨"FP_MultDiv", 2,
        [{ opClass := .floatMult, latency := 4 }, { opClass := .floatMultAcc, latency := 5 },
          { opClass := .floatMisc, latency := 3 },
          { opClass := .floatDiv, latency := 12, pipelined := false },
          { opClass := .floatSqrt, latency := 24, pipelined := false }]⟩,
      ⟨"ReadPort", 0, [{ opClass := .memRead }, { opClass := .floatMemRead }]⟩,
      ⟨"SIMD_Unit", 4, OpClass.vector.map fun opClass => { opClass }⟩,
      ⟨"PredALU", 1, [{ opClass := .simdPredAlu }]⟩,
      ⟨"WritePort", 0, [{ opClass := .memWrite }, { opClass := .floatMemWrite }]⟩,
      ⟨"RdWrPort", 4,
        [{ opClass := .memRead }, { opClass := .memWrite }, { opClass := .floatMemRead },
          { opClass := .floatMemWrite }]⟩,
      ⟨"IprPort", 1, [{ opClass := .iprAccess, latency := 3, pipelined := false }]⟩ ] }

example : wide.unitsFor .memRead = 4 ∧ wide.latency? .floatSqrt = some 24 := by decide

end UnitPool

end Polycore
