import Mathlib.Data.List.Nodup
import Mathlib.Data.List.Pairwise
import Polycore.Processor.Machine

/-!
# Well-formed processors

What `Processor.create` checks and every later request keeps is `Processor.WF`: names and models are
distinct, all configurations fill the same slots, the active one is known, and a core is switched
out exactly if its configuration is not the active one. Requests to a processor change only who is
switched out, so its `outline` stays for good.
-/

namespace Polycore

theorem firstRepeated?_eq_none_iff {α : Type} [DecidableEq α] {seen elements : List α} :
    firstRepeated? seen elements = none ↔ elements.Nodup ∧ ∀ a ∈ elements, a ∉ seen := by
  induction elements generalizing seen with
  | nil => simp [firstRepeated?]
  | cons a rest ih =>
    rw [firstRepeated?]
    split
    · next mem => exact iff_of_false nofun fun h => h.2 a List.mem_cons_self mem
    · next fresh =>
      rw [ih, List.nodup_cons, List.forall_mem_cons]
      constructor
      · rintro ⟨distinct, unseen⟩
        refine ⟨⟨fun mem => unseen a mem List.mem_cons_self, distinct⟩, fresh, fun b mem => ?_⟩
        exact fun seen => unseen b mem (List.mem_cons_of_mem _ seen)
      · rintro ⟨⟨first, distinct⟩, -, unseen⟩
        refine ⟨distinct, fun b mem => List.mem_cons.not.mpr (not_or.mpr ⟨?_, unseen b mem⟩)⟩
        exact fun same => first (same ▸ mem)

namespace Configuration

variable {configuration : Configuration}

@[simp] theorem setSwitchedOut_setSwitchedOut (first second : Bool) :
    (configuration.setSwitchedOut first).setSwitchedOut second =
      configuration.setSwitchedOut second :=
  Configuration.ext rfl (by simp [setSwitchedOut, CoreHandle.setSwitchedOut, Function.comp_def])

theorem switchedOut_of_mem_setSwitchedOut {switchedOut : Bool} {core : CoreHandle}
    (mem : core ∈ (configuration.setSwitchedOut switchedOut).cores) :
    core.switchedOut = switchedOut := by
  obtain ⟨_, -, rfl⟩ := List.mem_map.mp mem
  rfl

end Configuration

namespace Processor

/-- The configurations of a processor apart from who is switched out. -/
def outline (processor : Processor) : List Configuration :=
  processor.configurations.map (·.setSwitchedOut false)

/-- What every processor keeps to from its creation on. -/
structure WF (processor : Processor) : Prop where
  names : (processor.configurations.map (·.name)).Nodup
  active : ∃ configuration ∈ processor.configurations, configuration.name = processor.active
  layout : ∃ slots, ∀ configuration ∈ processor.configurations, configuration.slots = slots
  models : (processor.configurations.flatMap (·.models)).Nodup
  flags : ∀ configuration ∈ processor.configurations, ∀ core ∈ configuration.cores,
    core.switchedOut = (configuration.name != processor.active)

variable {processor next : Processor} {configuration : Configuration} {name : String}

theorem configuration?_eq_some (h : processor.configuration? name = some configuration) :
    configuration ∈ processor.configurations ∧ configuration.name = name :=
  ⟨List.mem_of_find?_eq_some h, by simpa using List.find?_some h⟩

/-- A name is known exactly if one of the configurations has it. -/
theorem exists_configuration?_iff :
    (∃ found, processor.configuration? name = some found) ↔
      name ∈ processor.configurations.map (·.name) := by
  rw [← Option.isSome_iff_exists, configuration?, List.find?_isSome, List.mem_map]
  simp

/-! ## Outlines -/

theorem map_outline {α : Type} (view : Configuration → α)
    (h : ∀ c, view (c.setSwitchedOut false) = view c) (processor : Processor) :
    processor.outline.map view = processor.configurations.map view := by
  simp only [outline, List.map_map, Function.comp_def, h]

/-- What does not depend on who is switched out agrees between processors of one outline. -/
theorem map_eq_of_outline {α : Type} (view : Configuration → α)
    (h : ∀ c, view (c.setSwitchedOut false) = view c) (same : next.outline = processor.outline) :
    next.configurations.map view = processor.configurations.map view := by
  rw [← map_outline view h, same, map_outline view h]

theorem map_configuration?_of_outline {α : Type} (view : Configuration → α)
    (h : ∀ c, view (c.setSwitchedOut false) = view c) (same : next.outline = processor.outline)
    (name : String) :
    (next.configuration? name).map view = (processor.configuration? name).map view := by
  have seen (processor : Processor) : (processor.configuration? name).map view =
      (processor.outline.find? (·.name = name)).map view := by
    rw [outline, List.find?_map, Option.map_map, configuration?]
    congr 1
    exact funext fun c => (h c).symm
  rw [seen, seen, same]

theorem models_allCores_of_outline (same : next.outline = processor.outline) :
    next.allCores.map (·.model) = processor.allCores.map (·.model) := by
  have models := map_eq_of_outline (·.models) (fun c => c.models_setSwitchedOut false) same
  rw [allCores, allCores, List.map_flatMap, List.map_flatMap]
  exact congrArg List.flatten models

theorem outline_markSwitchedOut (active : String) (configurations : List Configuration) :
    (markSwitchedOut active configurations).map (·.setSwitchedOut false) =
      configurations.map (·.setSwitchedOut false) := by
  simp [markSwitchedOut, Function.comp_def]

theorem names_markSwitchedOut (active : String) (configurations : List Configuration) :
    (markSwitchedOut active configurations).map (·.name) = configurations.map (·.name) := by
  simp [markSwitchedOut, Function.comp_def]

theorem outline_incorporated (processor : Processor) (bindings : List (ModelId × Timeline)) :
    (processor.incorporated bindings).outline = processor.outline :=
  outline_markSwitchedOut _ _

theorem outline_activate (processor : Processor) (name : String) :
    (processor.activate name).outline = processor.outline := by
  rw [outline, activate, List.map_map, outline]
  refine List.map_congr_left fun c _ => ?_
  simp only [Function.comp_apply]
  split
  · exact Configuration.setSwitchedOut_setSwitchedOut _ _
  · split
    · exact Configuration.setSwitchedOut_setSwitchedOut _ _
    · rfl

/-! ## What keeps a processor well-formed -/

theorem flags_markSwitchedOut {active : String} {configurations : List Configuration}
    (mem : configuration ∈ markSwitchedOut active configurations) {core : CoreHandle}
    (hcore : core ∈ configuration.cores) : core.switchedOut = (configuration.name != active) := by
  obtain ⟨before, -, rfl⟩ := List.mem_map.mp mem
  exact Configuration.switchedOut_of_mem_setSwitchedOut hcore

theorem slots_eq_of_layoutError?_eq_none {reference : Configuration}
    (h : layoutError? reference configuration = none) : configuration.slots = reference.slots := by
  unfold layoutError? at h
  split at h
  · cases h
  · split at h
    · cases h
    · next same => simpa [Configuration.sameLayout] using same

/-- What `create` has checked when it gives a processor. -/
theorem exists_of_create {configurations : List Configuration} {starting : String}
    (h : create configurations starting = .ok processor) :
    ∃ reference, firstRepeated? [] (configurations.map (·.name)) = none ∧
      configurations.find? (·.name = starting) = some reference ∧
      configurations.findSome? (layoutError? reference) = none ∧
      (Isa.distinct ((configurations.flatMap (·.cores)).map (·.isa))).length ≤ 1 ∧
      firstRepeated? [] (configurations.flatMap (·.models)) = none ∧
      processor =
        { configurations := markSwitchedOut starting configurations
          active := starting
          isa := reference.isa
          timelines := none } := by
  unfold create at h
  split at h
  · cases h
  · next distinct =>
    split at h
    · cases h
    · next reference known =>
      split at h
      · cases h
      · next aligned =>
        dsimp only at h
        split at h
        · cases h
        · next uniform =>
          split at h
          · cases h
          · next unshared =>
            cases h
            exact ⟨reference, distinct, known, aligned, Nat.le_of_not_lt uniform, unshared, rfl⟩

/-- Every check of `create` shows in the processor that passes them all. -/
theorem create_wf {configurations : List Configuration} {starting : String}
    (h : create configurations starting = .ok processor) : processor.WF := by
  obtain ⟨reference, distinct, known, aligned, -, unshared, rfl⟩ := exists_of_create h
  refine ⟨?_, ?_, ⟨reference.slots, ?_⟩, ?_, fun c => flags_markSwitchedOut⟩
  · rw [names_markSwitchedOut]
    exact (firstRepeated?_eq_none_iff.mp distinct).1
  · refine ⟨reference.setSwitchedOut (reference.name != starting),
      List.mem_map_of_mem (List.mem_of_find?_eq_some known), ?_⟩
    simpa using List.find?_some known
  · refine List.forall_mem_map.mpr fun before mem => ?_
    rw [Configuration.slots_setSwitchedOut]
    exact slots_eq_of_layoutError?_eq_none (List.findSome?_eq_none_iff.mp aligned before mem)
  · simpa [markSwitchedOut, List.flatMap_map] using (firstRepeated?_eq_none_iff.mp unshared).1

namespace WF

theorem of_outline (h : processor.WF) (same : next.outline = processor.outline)
    (active : ∃ configuration ∈ next.configurations, configuration.name = next.active)
    (flags : ∀ configuration ∈ next.configurations, ∀ core ∈ configuration.cores,
      core.switchedOut = (configuration.name != next.active)) : next.WF where
  names := by
    rw [map_eq_of_outline (·.name) (fun _ => rfl) same]
    exact h.names
  active := active
  layout := by
    obtain ⟨slots, aligned⟩ := h.layout
    have all : ∀ other ∈ next.configurations.map (·.slots), other = slots := by
      rw [map_eq_of_outline (·.slots) (fun c => c.slots_setSwitchedOut false) same]
      exact List.forall_mem_map.mpr aligned
    exact ⟨slots, List.forall_mem_map.mp all⟩
  models := by
    rw [List.flatMap_def,
      map_eq_of_outline (·.models) (fun c => c.models_setSwitchedOut false) same,
      ← List.flatMap_def]
    exact h.models
  flags := flags

theorem incorporated (h : processor.WF) (bindings : List (ModelId × Timeline)) :
    (processor.incorporated bindings).WF := by
  refine h.of_outline (outline_incorporated _ _) ?_ fun c => flags_markSwitchedOut
  obtain ⟨c, mem, hname⟩ := h.active
  exact ⟨_, List.mem_map_of_mem mem, hname⟩

theorem activate (h : processor.WF) (known : processor.configuration? name = some configuration)
    (other : name ≠ processor.active) : (processor.activate name).WF := by
  refine h.of_outline (outline_activate _ _) ?_ ?_
  · obtain ⟨mem, rfl⟩ := configuration?_eq_some known
    refine ⟨_, List.mem_map_of_mem mem, ?_⟩
    rw [if_neg other, if_pos rfl]
    rfl
  · refine List.forall_mem_map.mpr fun before mem core hcore => ?_
    simp only [Processor.activate]
    split at hcore
    · next was =>
      rw [if_pos was, Configuration.name_setSwitchedOut, was]
      rw [Configuration.switchedOut_of_mem_setSwitchedOut hcore]
      exact (bne_iff_ne.mpr other.symm).symm
    · next was =>
      rw [if_neg was]
      split at hcore
      · next becomes =>
        rw [if_pos becomes, Configuration.name_setSwitchedOut, becomes, bne_self_eq_false]
        exact Configuration.switchedOut_of_mem_setSwitchedOut hcore
      · next stays =>
        rw [if_neg stays, h.flags before mem core hcore, bne_iff_ne.mpr was, bne_iff_ne.mpr stays]

/-- A well-formed processor has an active configuration. -/
theorem exists_current? (h : processor.WF) :
    ∃ current, processor.current? = some current ∧ processor.cores = current.cores := by
  obtain ⟨c, mem, hname⟩ := h.active
  have found : processor.current?.isSome = true :=
    List.find?_isSome.mpr ⟨c, mem, by simpa using hname⟩
  obtain ⟨current, hcurrent⟩ := Option.isSome_iff_exists.mp found
  exact ⟨current, hcurrent, by rw [cores, hcurrent]; rfl⟩

/-- The active configuration is the only one that uses any of its models. -/
theorem mem_models_iff (h : processor.WF) (mem : configuration ∈ processor.configurations)
    {model : ModelId} (hmodel : model ∈ configuration.models) :
    model ∈ processor.models ↔ configuration.name = processor.active := by
  obtain ⟨current, hcurrent, hcores⟩ := h.exists_current?
  obtain ⟨currentMem, currentName⟩ := configuration?_eq_some hcurrent
  rw [Processor.models, hcores, ← currentName]
  constructor
  · intro shared
    by_contra different
    have : Std.Symm fun a b : Configuration => a.models.Disjoint b.models :=
      ⟨fun _ _ disjoint _ left right => disjoint right left⟩
    have apart := (List.nodup_flatMap.mp h.models).2.forall mem currentMem
    exact apart (fun same => different (congrArg _ same)) hmodel shared
  · intro same
    obtain rfl := List.inj_on_of_nodup_map h.names mem currentMem same
    exact hmodel

/-- All configurations have as many models as the active one. -/
theorem length_models (h : processor.WF) (mem : configuration ∈ processor.configurations) :
    configuration.models.length = processor.models.length := by
  obtain ⟨current, hcurrent, hcores⟩ := h.exists_current?
  obtain ⟨slots, aligned⟩ := h.layout
  have reference := aligned current (configuration?_eq_some hcurrent).1
  have same := (aligned configuration mem).trans reference.symm
  rw [Processor.models, hcores]
  simpa [Configuration.slots, Configuration.models] using congrArg List.length same

/-- No model of another configuration is active. -/
theorem disjoint_models (h : processor.WF)
    (known : processor.configuration? name = some configuration)
    (other : name ≠ processor.active) : processor.models.Disjoint configuration.models := by
  obtain ⟨mem, rfl⟩ := configuration?_eq_some known
  exact fun _ active incoming => other ((h.mem_models_iff mem incoming).mp active)

theorem nodup_allCores (h : processor.WF) : (processor.allCores.map (·.model)).Nodup := by
  rw [allCores, List.map_flatMap]
  exact h.models

theorem nodup_models (h : processor.WF) : processor.models.Nodup := by
  obtain ⟨current, hcurrent, hcores⟩ := h.exists_current?
  rw [Processor.models, hcores]
  exact (List.nodup_flatMap.mp h.models).1 current (configuration?_eq_some hcurrent).1

end WF

end Processor

end Polycore
