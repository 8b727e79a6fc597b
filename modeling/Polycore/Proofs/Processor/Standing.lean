import Polycore.Proofs.Processor.Representation

/-!
# Where a machine stands

A machine is known by what it was made of and by the configuration that is active. `standing` makes
one configuration of a processor or of a machine the active one, whichever it was before; a
well-formed processor stands where it says (`Processor.WF.standing_active`,
`Machine.Intact.standing_active`), and a switch takes it to stand elsewhere
(`Processor.WF.activate_eq`, `Machine.Intact.switched_eq`).
-/

namespace Polycore

theorem Configuration.setSwitchedOut_eq_self {configuration : Configuration} {switchedOut : Bool}
    (h : ∀ core ∈ configuration.cores, core.switchedOut = switchedOut) :
    configuration.setSwitchedOut switchedOut = configuration := by
  refine Configuration.ext rfl ?_
  refine (List.map_congr_left fun core mem => ?_).trans (List.map_id _)
  rw [CoreHandle.setSwitchedOut, ← h core mem]
  rfl

namespace Processor

variable {processor : Processor} {name : String} {next : Configuration}

/-- The processor with the configuration `name` active and all others switched out. -/
def standing (processor : Processor) (name : String) : Processor :=
  { processor with
    configurations := markSwitchedOut name processor.configurations
    active := name }

theorem standing_standing (processor : Processor) (first second : String) :
    (processor.standing first).standing second = processor.standing second := by
  simp [standing, markSwitchedOut, Function.comp_def]

theorem outline_standing (processor : Processor) (name : String) :
    (processor.standing name).outline = processor.outline :=
  outline_markSwitchedOut _ _

/-- A well-formed processor stands where it says. -/
theorem WF.standing_active (h : processor.WF) :
    processor.standing processor.active = processor := by
  have same : markSwitchedOut processor.active processor.configurations =
      processor.configurations :=
    (List.map_congr_left fun configuration mem =>
      Configuration.setSwitchedOut_eq_self (h.flags configuration mem)).trans (List.map_id _)
  rw [standing, same]

theorem markSwitchedOut_outline (name : String) (processor : Processor) :
    markSwitchedOut name processor.outline = markSwitchedOut name processor.configurations := by
  simp [outline, markSwitchedOut, Function.comp_def]

theorem WF.activate_eq (h : processor.WF) (known : processor.configuration? name = some next)
    (other : name ≠ processor.active) : processor.activate name = processor.standing name := by
  have marked : markSwitchedOut name (processor.activate name).configurations =
      markSwitchedOut name processor.configurations := by
    rw [← markSwitchedOut_outline, outline_activate, markSwitchedOut_outline]
  refine (h.activate known other).standing_active.symm.trans ?_
  change (processor.activate name).standing name = _
  rw [standing, marked]
  rfl

/-- The models of a configuration, in the order of their slots. -/
def models? (processor : Processor) (name : String) : Option (List ModelId) :=
  (processor.configuration? name).map (·.models)

theorem models?_standing (processor : Processor) (first second : String) :
    (processor.standing first).models? second = processor.models? second :=
  map_configuration?_of_outline (·.models) (fun c => c.models_setSwitchedOut false)
    (processor.outline_standing first) second

theorem WF.length_of_models? (h : processor.WF) {models : List ModelId}
    (known : processor.models? name = some models) : models.length = processor.models.length := by
  obtain ⟨configuration, found, rfl⟩ := Option.map_eq_some_iff.mp known
  exact h.length_models (configuration?_eq_some found).1

theorem WF.disjoint_of_models? (h : processor.WF) {models : List ModelId}
    (known : processor.models? name = some models) (other : name ≠ processor.active) :
    processor.models.Disjoint models := by
  obtain ⟨configuration, found, rfl⟩ := Option.map_eq_some_iff.mp known
  exact h.disjoint_models found other

theorem models_eq_models? (processor : Processor) :
    processor.models = (processor.models? processor.active).getD [] :=
  processor.models_eq

end Processor

theorem PairProcessor.sideName_eq_startName (onStart : Bool) :
    decide (sideName onStart = startName) = onStart := by
  cases onStart <;> decide

namespace Machine

variable {machine : Machine} {configurations : List Configuration} {name : String}

/-- The machine with the configuration `name` active and all others switched out. -/
def standing (machine : Machine) (name : String) : Machine :=
  match machine with
  | switchable processor => switchable (processor.standing name)
  | pair processor =>
    pair
      { processor with
        processor := processor.processor.standing name
        onStart := name = PairProcessor.startName }

theorem processor_standing (machine : Machine) (name : String) :
    (machine.standing name).processor = machine.processor.standing name := by
  cases machine with
  | switchable => rfl
  | pair => rfl

theorem standing_standing (machine : Machine) (first second : String) :
    (machine.standing first).standing second = machine.standing second := by
  cases machine with
  | switchable processor => exact congrArg switchable (processor.standing_standing first second)
  | pair pair => simp only [standing, Processor.standing_standing]

namespace Intact

theorem standing_active (h : Intact configurations machine) :
    machine.standing machine.processor.active = machine := by
  have stands := h.wf.standing_active
  cases machine with
  | switchable processor => exact congrArg switchable stands
  | pair pair =>
    have side : decide (pair.processor.active = PairProcessor.startName) = pair.onStart := by
      rw [(h.sided pair rfl).active, PairProcessor.sideName_eq_startName]
    rw [Machine.processor] at stands ⊢
    rw [standing, stands, side]

theorem switched_eq (h : Intact configurations machine) {next : Configuration}
    (known : machine.processor.configuration? (machine.target name) = some next)
    (other : machine.target name ≠ machine.processor.active) :
    machine.switched name = machine.standing (machine.target name) := by
  have activate := h.wf.activate_eq known other
  cases machine with
  | switchable processor => exact congrArg switchable activate
  | pair pair =>
    have side : decide (pair.otherSide = PairProcessor.startName) = !pair.onStart := by
      rw [pair.otherSide_eq, PairProcessor.sideName_eq_startName]
    rw [Machine.processor, target] at activate
    rw [Machine.switched, PairProcessor.toggled, activate, target, standing, side]

end Intact

end Machine

end Polycore
