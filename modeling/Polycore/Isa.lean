import Polycore.Text.Lower

/-!
# Instruction sets

The instruction set that a core executes, its names, and the spellings that are read.
-/

namespace Polycore

/-- Instruction-set identity of a core model. -/
inductive Isa where
  | x86
  | arm
  | riscV
  | power
  | mips
  | sparc
deriving DecidableEq, Repr, Inhabited

namespace Isa

/-- Every instruction set, in ascending order. -/
def all : List Isa :=
  [x86, arm, riscV, power, mips, sparc]

def name : Isa → String
  | x86 => "x86"
  | arm => "arm"
  | riscV => "riscv"
  | power => "power"
  | mips => "mips"
  | sparc => "sparc"

/-- The label in reports and in lists of instruction sets. -/
def label : Isa → String
  | x86 => "X86"
  | arm => "Arm"
  | riscV => "RiscV"
  | power => "Power"
  | mips => "Mips"
  | sparc => "Sparc"

/-- The spellings that are read, in lower case. -/
def spellings : Isa → List String
  | x86 => ["x86", "x86_64", "amd64"]
  | arm => ["arm", "aarch64", "arm64"]
  | riscV => ["riscv", "risc-v", "riscv64"]
  | power => ["power", "ppc"]
  | mips => ["mips"]
  | sparc => ["sparc"]

/-- The instruction set that a text spells in any case of letters; else the text of the refusal. -/
def read (text : String) : Except String Isa :=
  let folded := String.ofList (Text.lower text.toList)
  match all.find? fun isa => isa.spellings.contains folded with
  | some isa => .ok isa
  | none => .error s!"Unknown ISA: {text}"

/-- The instruction sets of a list, each once, in ascending order. -/
def distinct (isas : List Isa) : List Isa :=
  all.filter isas.contains

end Isa

end Polycore
