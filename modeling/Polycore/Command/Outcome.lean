import Polycore.Command.Options
import Polycore.Run.Experiment
import Polycore.Run.ReportFormat
import Polycore.Text.Inert

/-!
# Outcomes

What a call of the command does (`Command.run`): it runs one experiment for each seed, stops at the
first that fails, and says what came of them. Seeds follow each other modulo 2 ^ 64; the seed zero
asks for one from the clock.
-/

namespace Polycore.Command

inductive Status where
  | success
  | failure
  /-- the words of the call are wrong -/
  | usage
deriving DecidableEq, Repr

def Status.code : Status → UInt32
  | success => 0
  | failure => 1
  | usage => 2

structure Outcome where
  status : Status
  /-- the text for the output -/
  output : String := ""
  /-- lines for the terminal -/
  notes : List String := []
  /-- a file's path and its text -/
  file : Option (String × String) := none
deriving DecidableEq, Repr

/-! ## Runs -/

/-- The runs of a call: the reports of those that ended well, and the seed and the error of the one
that did not. -/
structure Runs where
  reports : List RunReport := []
  failed : Option (UInt64 × RunError) := none
deriving DecidableEq, Repr

def runSeed (preset : Preset) (options : Options) (seed : UInt64) : Except RunError RunReport :=
  match Experiment.build preset options.guest (options.config seed) with
  | .error error => .error error
  | .ok experiment => experiment.run.1

/-- Runs experiments with `count` seeds from `seed` on, up to the first that fails. -/
def runSeeds (preset : Preset) (options : Options) : Nat → UInt64 → Runs
  | 0, _ => {}
  | count + 1, seed =>
    match runSeed preset options seed with
    | .error error => { failed := some (seed, error) }
    | .ok report =>
      let later := runSeeds preset options count (seed + 1)
      { later with reports := report :: later.reports }

/-! ## Texts -/

def successLine (preset : Preset) (report : RunReport) : String :=
  "✓ " ++ preset.name ++ " seed=" ++ toString report.seed.toNat ++ " ended at tick " ++
    toString report.finalTick ++ " (" ++ report.exitReason.name ++ "), " ++
    toString report.instructions ++ " instructions, " ++ toString report.switches ++ " switches"

/-- The line for a run that failed. The workload's name, which may hold anything, is shown without
its commands to the terminal. -/
def failureLine (preset : Preset) (seed : UInt64) (error : RunError) : String :=
  "✗ " ++ preset.name ++ " seed=" ++ toString seed.toNat ++ " failed: " ++
    String.ofList (Text.inert error.message.toList)

def settingsLine : String :=
  "Available settings: " ++ ", ".intercalate (Setting.all.map ("--" ++ ·.name))

def presetsLine : String :=
  "Available systems: 0-4, -1, -2, " ++ ", ".intercalate (Preset.all.map Preset.name)

def runSummary (report : RunReport) : Json :=
  .object
    [("exit_reason", .string report.exitReason.label), ("final_tick", .ofNat report.finalTick),
      ("instructions", .ofNat report.instructions), ("mem_mode", .string report.memMode.label),
      ("seed", .ofNat report.seed.toNat), ("switches", .ofNat report.switches)]

def summary (preset : Preset) (options : Options) (reports : List RunReport) : Json :=
  .object
    [("runs", .array (reports.map runSummary)), ("system", .string preset.name),
      ("workload", .string options.workload)]

/-! ## The call -/

def firstSeed (clock : UInt64) (options : Options) : UInt64 :=
  if options.seed = 0 then clock else options.seed

/-- What comes of the runs. A call in which one failed has no output and writes no file. -/
def conclude (preset : Preset) (options : Options) (runs : Runs) : Outcome :=
  let lines := if options.json then [] else runs.reports.map (successLine preset)
  match runs.failed with
  | some (seed, error) =>
    { status := .failure, notes := lines ++ [failureLine preset seed error] }
  | none =>
    { status := .success
      output :=
        if options.json then (summary preset options runs.reports).pretty ++ "\n" else ""
      notes := lines
      file := options.exportTo.bind fun path => runs.reports.head?.map fun report =>
        (path, report.text) }

def perform (clock : UInt64) (options : Options) : Outcome :=
  match Preset.read options.system with
  | .error unknown =>
    { status := .failure, notes := ["Error: " ++ unknown.message, presetsLine] }
  | .ok preset =>
    if options.exportTo.isSome && 1 < options.seeds then
      { status := .failure, notes := ["Error: --export only supports a single seed"] }
    else
      conclude preset options (runSeeds preset options options.seeds (firstSeed clock options))

def run (environment : Environment) (clock : UInt64) (words : List String) : Outcome :=
  match Options.read environment words with
  | none => { status := .usage, notes := [settingsLine] }
  | some options => perform clock options

end Polycore.Command
