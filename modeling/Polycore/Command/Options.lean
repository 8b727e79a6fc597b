import Polycore.Command.Setting
import Polycore.Decimal.Reading
import Polycore.Run.Config
import Polycore.Run.Workload
import Polycore.Text.Numeral

/-!
# Options

What a call of the command asks for, once its settings are read: `Options.read`. Settings that are
not given have the values of the structure's defaults; the environment may replace two of them.
-/

namespace Polycore.Command

/-- What a call of the command asks for. -/
structure Options where
  /-- the text that names the preset -/
  system : String := "0"
  workload : String := "trace"
  instructions : Nat := 10000000
  fpFraction : Float := 0.2
  /-- counts at which the guest is to exit, if any are given -/
  exitAt : List Nat := []
  workBegin : Option Nat := none
  workEnd : Option Nat := none
  seed : UInt64 := 42
  /-- number of seeds to run, one after the other -/
  seeds : Nat := 1
  switches : Nat := 0
  quantum : Nat := 10000
  maxTicks : Nat := 1000000000
  noRuby : Bool := false
  /-- accepted, but there is nothing more to say -/
  verbose : Bool := false
  /-- the runs are summed up on the output, and no other line is written for those that end well -/
  json : Bool := false
  /-- the file that the report is written to -/
  exportTo : Option String := none
deriving DecidableEq, Repr

/-- What the environment sets. A variable that is empty is set. -/
structure Environment where
  system : Option String := none
  workload : Option String := none
deriving DecidableEq, Repr

/-- The options of a call without settings. -/
def Environment.options (environment : Environment) : Options :=
  let bare : Options := {}
  { bare with
    system := environment.system.getD bare.system
    workload := environment.workload.getD bare.workload }

namespace Options

def number? (text : List Char) : Option Nat :=
  Numeral.bounded? Word.bound64 text

def splitAtCommas : List Char → List (List Char)
  | [] => [[]]
  | c :: rest =>
    if c = ',' then [] :: splitAtCommas rest
    else
      match splitAtCommas rest with
      | piece :: pieces => (c :: piece) :: pieces
      | [] => [[c]]

def numbers? (text : List Char) : Option (List Nat) :=
  (splitAtCommas text).mapM number?

/-- Takes a setting over into the options, if its value is one. -/
def set? (options : Options) : Given → Option Options
  | ⟨.system, text⟩ => some { options with system := String.ofList text }
  | ⟨.workload, text⟩ => some { options with workload := String.ofList text }
  | ⟨.instructions, text⟩ => (number? text).map fun n => { options with instructions := n }
  | ⟨.fpFraction, text⟩ =>
    (Decimal.readFloat? text).map fun x => { options with fpFraction := x }
  | ⟨.exitAt, text⟩ =>
    (numbers? text).map fun counts => { options with exitAt := options.exitAt ++ counts }
  | ⟨.workBegin, text⟩ => (number? text).map fun n => { options with workBegin := some n }
  | ⟨.workEnd, text⟩ => (number? text).map fun n => { options with workEnd := some n }
  | ⟨.seed, text⟩ => (number? text).map fun n => { options with seed := UInt64.ofNat n }
  | ⟨.seeds, text⟩ => (number? text).map fun n => { options with seeds := n }
  | ⟨.switches, text⟩ => (number? text).map fun n => { options with switches := n }
  | ⟨.quantum, text⟩ => (number? text).map fun n => { options with quantum := n }
  | ⟨.maxTicks, text⟩ => (number? text).map fun n => { options with maxTicks := n }
  | ⟨.noRuby, _⟩ => some { options with noRuby := true }
  | ⟨.verbose, _⟩ => some { options with verbose := true }
  | ⟨.json, _⟩ => some { options with json := true }
  | ⟨.exportTo, text⟩ => some { options with exportTo := some (String.ofList text) }

/-- The options of settings. None but the counts of exits may be given twice. -/
def ofGiven? (environment : Environment) (given : List Given) : Option Options :=
  if ((given.map (·.setting)).filter (!·.repeats)).Nodup then
    given.foldlM set? environment.options
  else none

/-- Reads the words of a call. -/
def read (environment : Environment) (words : List String) : Option Options :=
  (Setting.scan (words.map String.toList)).bind (ofGiven? environment)

/-! ## What the options describe -/

/-- The counts at which the guest exits before its end. Without any given it exits once. -/
def exitPoints (options : Options) : List Nat :=
  (if options.exitAt.isEmpty then [1000000] else options.exitAt).filter (· < options.instructions)

def guest (options : Options) : Workload :=
  let bare : Workload :=
    { name := options.workload, instructions := options.instructions
      fpFraction := options.fpFraction }
  let exits := options.exitPoints.foldl Workload.withExitPoint bare
  let begun := options.workBegin.elim exits exits.withWorkBegin
  options.workEnd.elim begun begun.withWorkEnd

/-- The configuration of the run with a seed. -/
def config (options : Options) (seed : UInt64) : RunConfig where
  seed
  quantum := options.quantum
  maxTicks := options.maxTicks
  ruby := !options.noRuby
  switches := options.switches

end Options

end Polycore.Command
