import Polycore.Core.UnitPool
import Polycore.MemMode
import Polycore.Word

/-!
# Core models

One variant of a core that a board can simulate: how the guest tells it apart, and how it executes
guest instructions. `CoreModel.ticksPerInstruction` is its speed. All float arithmetic is in the
order written, each step rounded.
-/

namespace Polycore

/-- Stepping by which the guest tells core variants apart. -/
inductive Stepping where
  | standard
  | bigCore
  | smallCore
  | intCore
  | fpCore
deriving DecidableEq, Repr, Inhabited

namespace Stepping

def all : List Stepping :=
  [standard, bigCore, smallCore, intCore, fpCore]

def label : Stepping → String
  | standard => "Default"
  | bigCore => "BigCore"
  | smallCore => "SmallCore"
  | intCore => "IntCore"
  | fpCore => "FpCore"

def code : Stepping → Nat
  | standard => 1
  | bigCore => 2
  | smallCore => 3
  | intCore => 4
  | fpCore => 5

/-- The four identification words that the guest reads: family, model and stepping, then feature
flags. -/
def identification (stepping : Stepping) : List Nat :=
  [0x00020F50 ||| stepping.code, 0x00000805, 0xEFDBFBFF, 0x00000209]

end Stepping

/-- How a core model executes guest instructions. -/
inductive CoreKind where
  /-- on the host; the factors scale host time to simulated time for integer and floating-point
  work -/
  | hostAccelerated (factor fpFactor : Float)
  /-- in a detailed out-of-order pipeline -/
  | outOfOrder (pool : UnitPool)
  /-- one instruction a tick -/
  | atomic
deriving BEq, Repr

structure CoreModel where
  name : String
  stepping : Stepping
  kind : CoreKind
deriving BEq, Repr

namespace CoreModel

/-- The model executes on the host instead of being timed by the board. -/
def isAccelerated (model : CoreModel) : Bool :=
  match model.kind with
  | .hostAccelerated .. => true
  | _ => false

/-- The memory mode that the model needs from the board. -/
def memMode (model : CoreModel) : MemMode :=
  match model.kind with
  | .hostAccelerated .. => .atomicNoncaching
  | .outOfOrder _ => .timing
  | .atomic => .atomic

/-- A share cut to the range from 0 to 1. NaN and minus zero stay as they are. -/
def cutShare (share : Float) : Float :=
  if share < 0.0 then 0.0 else if 1.0 < share then 1.0 else share

/-- Average simulated ticks for one instruction, where `fpFraction` is the share of floating-point
instructions. An out-of-order core is bound by its adders. -/
def ticksPerInstruction (model : CoreModel) (fpFraction : Float) : Float :=
  let fp := cutShare fpFraction
  match model.kind with
  | .hostAccelerated factor fpFactor => factor * (1.0 - fp) + fpFactor * fp
  | .outOfOrder pool =>
    let int := 1.0 / Word.toFloat (max (pool.unitsFor .intAlu) 1)
    let float := Word.toFloat ((pool.latency? .floatAdd).getD 1) /
      Word.toFloat (max (pool.unitsFor .floatAdd) 1)
    int * (1.0 - fp) + float * fp
  | .atomic => 1.0

/-! ## The models on offer -/

def onHost (name : String) (stepping : Stepping) (factor fpFactor : Float) : CoreModel :=
  { name, stepping, kind := .hostAccelerated factor fpFactor }

/-- As fast as the host. -/
def bigKvm : CoreModel := onHost "big_kvm" .bigCore 1.0 1.0

/-- Twice as slow as the host. -/
def smallKvm : CoreModel := onHost "small_kvm" .smallCore 2.0 2.0

/-- Made for integers: floating-point work takes fifty times as long as on the host. -/
def intKvm : CoreModel := onHost "int_kvm" .intCore 1.0 50.0

/-- Made for floating point, which costs it no simulated time. -/
def fpKvm : CoreModel := onHost "fp_kvm" .fpCore 1.0 0.0

/-- Ten times slower than the host. -/
def superSlow : CoreModel := onHost "super_slow" .standard 10.0 10.0

/-- Twice as fast as the host. -/
def speedDemon : CoreModel := onHost "speed_demon" .standard 0.5 0.5

/-- The pipeline that the guest sees as a big core. -/
def bigO3 : CoreModel := { name := "big_o3", stepping := .bigCore, kind := .outOfOrder .wide }

/-- The pipeline that the guest sees as a small core; it is as wide as that of the big one. -/
def smallO3 : CoreModel := { name := "small_o3", stepping := .smallCore, kind := .outOfOrder .wide }

/-- Atomic stand-in for the other side of a pair. -/
def dummy : CoreModel := { name := "dummy", stepping := .standard, kind := .atomic }

/-- Every model on offer; their names are distinct. -/
def offered : List CoreModel :=
  [bigKvm, smallKvm, intKvm, fpKvm, superSlow, speedDemon, bigO3, smallO3, dummy]

end CoreModel

end Polycore
