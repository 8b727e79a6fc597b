import Polycore.Run.Simulator
import Polycore.Preset

/-!
# Experiments

An experiment is a preset board that runs one guest program. Exits of the guest toggle its
processor as often as the configuration says, and then end the run.
-/

namespace Polycore

/-- A preset and the simulator that runs it. -/
structure Experiment where
  preset : Preset
  simulator : Simulator

namespace Experiment

/-- A fresh kernel asked for one model after the other. -/
def instantiate (descriptor : CoreModel) (_slot : Nat) (kernel : Kernel) : ModelId × Kernel :=
  kernel.instantiate descriptor

/-- Puts an experiment together, with every core of the preset on a fresh kernel. -/
def build (preset : Preset) (workload : Workload) (config : RunConfig) :
    Except RunError Experiment :=
  match config.pace with
  | .error error => .error (.config error)
  | .ok _ =>
    match workload.error? with
    | some error => .error (.config error)
    | none =>
      let fresh := Kernel.create config.seed config.ruby
      match PairProcessor.ofCoreTypes instantiate preset.coreTypes config.isa fresh with
      | (.error error, _) => .error (.processor error)
      | (.ok pair, kernel) =>
        let handler := Handler.toggleTimes config.switches
        .ok
          { preset
            simulator :=
              { machine := .pair pair, kernel, workload, config
                handlers := fun trigger => if trigger = .exit then some handler else none } }

/-- Runs the experiment. The report names the preset. -/
def run (experiment : Experiment) : Except RunError RunReport × Experiment :=
  match experiment.simulator.run with
  | (.error error, simulator) => (.error error, { experiment with simulator })
  | (.ok report, simulator) =>
    (.ok { report with system := some experiment.preset.name }, { experiment with simulator })

end Experiment

end Polycore
