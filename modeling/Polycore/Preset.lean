import Polycore.Core.Model
import Polycore.Processor.Pair
import Polycore.Text.Blank
import Polycore.Text.Lower
import Polycore.Text.Numeral

/-!
# Presets

The boards on offer: how many cores of which model each has, and the texts that name it, which are
codes or names (`Preset.read`).
-/

namespace Polycore

/-- How many cores of each accelerated model a board has. -/
structure CoreCounts where
  big : Nat := 0
  small : Nat := 0
  int : Nat := 0
  fp : Nat := 0
  superSlow : Nat := 0
  speedDemon : Nat := 0
deriving DecidableEq, Repr

def CoreCounts.total (counts : CoreCounts) : Nat :=
  counts.big + counts.small + counts.int + counts.fp + counts.superSlow + counts.speedDemon

/-- A board on offer. -/
inductive Preset where
  | homogeneous
  | bigLittle
  | intAndAccel
  | highHet
  | onlyFloat
  /-- for debugging, with very slow cores -/
  | superSlow
  /-- for debugging, with very fast cores -/
  | speedDemon
deriving DecidableEq, Repr, Inhabited

namespace Preset

/-- Every preset, those for debugging last. -/
def all : List Preset :=
  [homogeneous, bigLittle, intAndAccel, highHet, onlyFloat, superSlow, speedDemon]

def code : Preset → Int
  | homogeneous => 0
  | bigLittle => 1
  | intAndAccel => 2
  | highHet => 3
  | onlyFloat => 4
  | superSlow => -1
  | speedDemon => -2

def ofCode? (code : Int) : Option Preset :=
  all.find? (·.code = code)

def name : Preset → String
  | homogeneous => "homogeneous"
  | bigLittle => "big_little"
  | intAndAccel => "int_and_accel"
  | highHet => "high_het"
  | onlyFloat => "only_float"
  | superSlow => "super_slow"
  | speedDemon => "speed_demon"

def description : Preset → String
  | homogeneous => "4 big cores"
  | bigLittle => "2 big cores, 4 small cores"
  | intAndAccel => "2 integer cores, 2 floating-point cores"
  | highHet => "1 big, 2 small, 2 integer, 2 floating-point cores"
  | onlyFloat => "4 floating-point cores"
  | superSlow => "4 cores at a tenth of host speed"
  | speedDemon => "4 cores at twice host speed"

def title (preset : Preset) : String :=
  preset.name ++ " (" ++ String.ofList (Numeral.writeInt preset.code) ++ ")"

/-- Presets for debugging have negative codes. -/
def isDebug (preset : Preset) : Bool :=
  preset.code < 0

def coreCounts : Preset → CoreCounts
  | homogeneous => { big := 4 }
  | bigLittle => { big := 2, small := 4 }
  | intAndAccel => { int := 2, fp := 2 }
  | highHet => { big := 1, small := 2, int := 2, fp := 2 }
  | onlyFloat => { fp := 4 }
  | superSlow => { superSlow := 4 }
  | speedDemon => { speedDemon := 4 }

/-- The core types of a preset: every core starts accelerated and switches to the atomic
stand-in. -/
def coreTypes (preset : Preset) : List CoreType :=
  let counts := preset.coreCounts
  let starts : List (CoreModel × Nat) :=
    [(.bigKvm, counts.big), (.smallKvm, counts.small), (.intKvm, counts.int), (.fpKvm, counts.fp),
      (.superSlow, counts.superSlow), (.speedDemon, counts.speedDemon)]
  (starts.filter (0 < ·.2)).map fun (start, count) => { start, switch := .dummy, count }

/-! ## Reading -/

/-- The spellings of a preset, in lower case and with underscores. -/
def spellings : Preset → List String
  | bigLittle => ["big_little", "biglittle"]
  | highHet => ["high_het", "highhet"]
  | preset => [preset.name]

/-- A text in lower case, underscores for hyphens. -/
def fold (text : List Char) : List Char :=
  (Text.lower text).map fun c => if c = '-' then '_' else c

/-- The preset that a text spells in any case of letters, with hyphens or underscores. -/
def ofName? (text : List Char) : Option Preset :=
  all.find? fun preset => preset.spellings.contains (String.ofList (fold text))

/-- The code that a text is: digits with an optional sign, in the range of signed words of 32
bits. -/
def code? (text : List Char) : Option Int :=
  (Numeral.signed? text).filter fun code => -0x80000000 ≤ code && code < 0x80000000

/-- A text that names no preset. -/
structure Unknown where
  text : List Char
deriving DecidableEq, Repr

def Unknown.message (unknown : Unknown) : String :=
  "Unknown system config: " ++ String.ofList unknown.text

/-- The preset that a text names, blanks around it aside. A text that is a code is never taken for a
name. The refusal repeats a code in its plain form and any other text without the blanks around
it. -/
def read (text : String) : Except Unknown Preset :=
  let text := Text.trim text.toList
  match code? text with
  | some code =>
    match ofCode? code with
    | some preset => .ok preset
    | none => .error ⟨Numeral.writeInt code⟩
  | none =>
    match ofName? text with
    | some preset => .ok preset
    | none => .error ⟨text⟩

end Preset

end Polycore
