import Mathlib.Data.List.Perm.Subperm
import Polycore.Proofs.Kernel.Requests
import Polycore.Proofs.Processor.Pairs
import Polycore.Run.Experiment

/-!
# Pairs from core types

Core types with cores in them always make a pair, for what `Processor.create` checks holds of the
handles by the way they are numbered (`PairProcessor.handles`). The kernel gains one idle object for
each core, those of the start side first (`PairProcessor.exists_ofCoreTypes`).
-/

namespace Polycore

/-! ## What passes the checks -/

theorem Isa.length_distinct_le_one {isas : List Isa} {isa : Isa} (h : ∀ other ∈ isas, other = isa) :
    (distinct isas).length ≤ 1 := by
  have once : (distinct isas).Nodup := List.Nodup.filter _ (by decide)
  have only : distinct isas ⊆ [isa] := by
    intro other mem
    have listed : other ∈ isas := by simpa using (List.mem_filter.mp mem).2
    exact List.mem_singleton.mpr (h other listed)
  exact (List.subperm_of_subset once only).length_le

theorem Processor.create_eq_ok {configurations : List Configuration} {starting : String}
    {reference : Configuration} {isa : Isa} (names : (configurations.map (·.name)).Nodup)
    (known : configurations.find? (·.name = starting) = some reference)
    (layout : ∀ configuration ∈ configurations, configuration.slots = reference.slots)
    (uniform : ∀ core ∈ configurations.flatMap (·.cores), core.isa = isa)
    (models : (configurations.flatMap (·.models)).Nodup) :
    create configurations starting =
      .ok
        { configurations := markSwitchedOut starting configurations
          active := starting
          isa := reference.isa
          timelines := none } := by
  have aligned : configurations.findSome? (layoutError? reference) = none := by
    refine List.findSome?_eq_none_iff.mpr fun configuration mem => ?_
    have same := layout configuration mem
    have size : configuration.size = reference.size := by
      simpa [Configuration.slots, Configuration.size] using congrArg List.length same
    simp [layoutError?, size, Configuration.sameLayout, same]
  have single : (Isa.distinct ((configurations.flatMap (·.cores)).map (·.isa))).length ≤ 1 :=
    Isa.length_distinct_le_one (List.forall_mem_map.mpr uniform)
  rw [create, firstRepeated?_eq_none_iff.mpr ⟨names, fun _ _ => List.not_mem_nil⟩, known]
  simp only [aligned, if_neg (Nat.not_lt.mpr single),
    firstRepeated?_eq_none_iff.mpr ⟨models, fun _ _ => List.not_mem_nil⟩]

/-! ## Registered models -/

namespace Kernel

/-- The kernel with some more core models registered. -/
def register (descriptors : List CoreModel) (kernel : Kernel) : Kernel :=
  { kernel with objects := kernel.objects ++ descriptors.map .create }

theorem length_objects_register (descriptors : List CoreModel) (kernel : Kernel) :
    (kernel.register descriptors).objects.length = kernel.objects.length + descriptors.length := by
  simp [register]

theorem register_register (first second : List CoreModel) (kernel : Kernel) :
    (kernel.register first).register second = kernel.register (first ++ second) := by
  simp [register]

theorem isSome_object?_register {descriptors : List CoreModel} {kernel : Kernel} {model : ModelId}
    (h : model.raw < kernel.objects.length + descriptors.length) :
    ((kernel.register descriptors).object? model).isSome = true := by
  rw [isSome_object?_iff, length_objects_register]
  exact h

/-- On a new kernel every object is on the shared timeline. -/
theorem isShared_timeline?_register {seed : UInt64} {ruby : Bool} {descriptors : List CoreModel}
    {model : ModelId} {timeline : Timeline}
    (h : ((create seed ruby).register descriptors).timeline? model = some timeline) :
    timeline.isShared = true := by
  obtain ⟨object, found, rfl⟩ := Option.map_eq_some_iff.mp h
  obtain ⟨descriptor, -, rfl⟩ := List.mem_map.mp (List.mem_of_getElem? found)
  rfl

theorem reachable_register {allowed : Request → Prop}
    (instantiate : ∀ descriptor, allowed (.instantiate descriptor)) (descriptors : List CoreModel)
    {kernel : Kernel} (h : ReachableBy allowed kernel) :
    ReachableBy allowed (kernel.register descriptors) := by
  induction descriptors generalizing kernel with
  | nil => simpa [register] using h
  | cons descriptor rest ih =>
    have first : ReachableBy allowed (kernel.perform (.instantiate descriptor)) :=
      .perform (.instantiate descriptor) (instantiate descriptor) h
    simpa [register, perform, Kernel.instantiate] using ih first

end Kernel

namespace PairProcessor

variable {isa : Isa} {slot model : Nat} {descriptors : List CoreModel} {core : CoreHandle}

/-! ## Handles -/

/-- The handles of some core models in consecutive slots, for models with consecutive numbers. -/
def handles (isa : Isa) : (slot model : Nat) → List CoreModel → List CoreHandle
  | _, _, [] => []
  | slot, model, descriptor :: rest =>
    .create slot isa ⟨model⟩ descriptor :: handles isa (slot + 1) (model + 1) rest

theorem slots_handles (isa : Isa) (slot model : Nat) (descriptors : List CoreModel) :
    (handles isa slot model descriptors).map (·.slot) = List.range' slot descriptors.length := by
  induction descriptors generalizing slot model with
  | nil => rfl
  | cons descriptor rest ih => simp [handles, ih, CoreHandle.create, List.range'_succ]

theorem models_handles (isa : Isa) (slot model : Nat) (descriptors : List CoreModel) :
    (handles isa slot model descriptors).map (·.model) =
      (List.range' model descriptors.length).map ModelId.mk := by
  induction descriptors generalizing slot model with
  | nil => rfl
  | cons descriptor rest ih => simp [handles, ih, CoreHandle.create, List.range'_succ]

theorem length_handles (isa : Isa) (slot model : Nat) (descriptors : List CoreModel) :
    (handles isa slot model descriptors).length = descriptors.length := by
  have length := congrArg List.length (slots_handles isa slot model descriptors)
  simpa using length

theorem isa_of_mem_handles (mem : core ∈ handles isa slot model descriptors) : core.isa = isa := by
  induction descriptors generalizing slot model with
  | nil => cases mem
  | cons descriptor rest ih =>
    rcases List.mem_cons.mp mem with rfl | later
    · rfl
    · exact ih later

theorem map_setSwitchedOut_handles (isa : Isa) (slot model : Nat) (descriptors : List CoreModel) :
    (handles isa slot model descriptors).map (·.setSwitchedOut false) =
      handles isa slot model descriptors := by
  induction descriptors generalizing slot model with
  | nil => rfl
  | cons descriptor rest ih =>
    rw [handles, List.map_cons, ih]
    rfl

theorem pairwise_handles (isa : Isa) (slot model : Nat) (descriptors : List CoreModel) :
    (handles isa slot model descriptors).Pairwise fun a b => a.slot < b.slot := by
  have ascending : ((handles isa slot model descriptors).map (·.slot)).Pairwise (· < ·) := by
    rw [slots_handles]
    exact List.pairwise_lt_range' 1
  exact List.pairwise_map.mp ascending

theorem instantiateAll_eq (isa : Isa) (first : Nat) (descriptors : List CoreModel)
    (kernel : Kernel) :
    instantiateAll Experiment.instantiate isa first descriptors kernel =
      (handles isa first kernel.objects.length descriptors, kernel.register descriptors) := by
  induction descriptors generalizing first kernel with
  | nil => simp [instantiateAll, handles, Kernel.register]
  | cons descriptor rest ih =>
    simp [instantiateAll, handles, ih, Experiment.instantiate, Kernel.instantiate, Kernel.register]

/-! ## Pairs -/

theorem length_expand (types : List CoreType) :
    (expand types).length = (types.map (·.count)).sum := by
  simp [expand, List.length_flatMap]

/-- Handles of two sides with the same slots make a pair, if no model is used twice. -/
theorem exists_ofPairs {start switch : List CoreHandle} (nonempty : start ≠ [])
    (slots : start.map (·.slot) = switch.map (·.slot))
    (ascending : start.Pairwise fun a b => a.slot < b.slot)
    (uniform : ∀ core ∈ start ++ switch, core.isa = isa)
    (models : ((start ++ switch).map (·.model)).Nodup) :
    ∃ pair, ofPairs (start.zip switch) = .ok pair ∧ pair.processor.timelines = none ∧
      pair.coresOn true = start.map (·.setSwitchedOut false) ∧
      pair.coresOn false = switch.map (·.setSwitchedOut true) := by
  have length : start.length = switch.length := by simpa using congrArg List.length slots
  have firsts : (start.zip switch).map (·.1) = start := List.map_fst_zip (Nat.le_of_eq length)
  have seconds : (start.zip switch).map (·.2) = switch :=
    List.map_snd_zip (Nat.le_of_eq length.symm)
  have rising : switch.Pairwise fun a b => a.slot < b.slot := by
    have mapped : (start.map (·.slot)).Pairwise (· < ·) := List.pairwise_map.mpr ascending
    rw [slots] at mapped
    exact List.pairwise_map.mp mapped
  have filled : switch ≠ [] := by
    rw [← List.length_pos_iff, ← length, List.length_pos_iff]
    exact nonempty
  let first : Configuration := ⟨startName, start, ascending, nonempty⟩
  let second : Configuration := ⟨switchName, switch, rising, filled⟩
  have names : ([first, second].map (·.name)).Nodup :=
    show [startName, switchName].Nodup by decide
  have known : [first, second].find? (·.name = startName) = some first := rfl
  have layout : ∀ configuration ∈ [first, second], configuration.slots = first.slots := by
    simp [first, second, Configuration.slots, slots]
  have created := Processor.create_eq_ok names known layout
    (by simpa [first, second] using uniform)
    (by simpa [first, second, Configuration.models] using models)
  obtain ⟨a, _, rfl⟩ := List.exists_cons_of_ne_nil nonempty
  obtain ⟨b, _, rfl⟩ := List.exists_cons_of_ne_nil filled
  rw [List.zip_cons_cons] at firsts seconds ⊢
  let processor : Processor :=
    { configurations := Processor.markSwitchedOut startName [first, second]
      active := startName
      isa := first.isa
      timelines := none }
  refine ⟨⟨processor, true, a.descriptor.memMode⟩, ?_, rfl, rfl, rfl⟩
  rw [ofPairs, firsts, seconds, Configuration.ofCores_eq_ok _ ascending nonempty]
  dsimp only
  rw [Configuration.ofCores_eq_ok _ rising filled]
  dsimp only
  rw [created]

/-- Core types with cores in them make a pair. Its sides have the cores of all types in their order,
one to a slot, and the kernel gains their objects, those of the start side first. -/
theorem exists_ofCoreTypes {types : List CoreType} (nonempty : types ≠ [])
    (counts : ∀ type ∈ types, 0 < type.count) (isa : Isa) (kernel : Kernel) :
    ∃ pair pairs, ofPairs pairs = .ok pair ∧ pair.processor.timelines = none ∧
      pair.coresOn true = handles isa 0 kernel.objects.length ((expand types).map (·.1)) ∧
      pair.coresOn false =
        (handles isa 0 (kernel.objects.length + (expand types).length)
          ((expand types).map (·.2))).map (·.setSwitchedOut true) ∧
      ofCoreTypes Experiment.instantiate types isa kernel =
        (.ok pair, kernel.register ((expand types).map (·.1) ++ (expand types).map (·.2))) := by
  have counted : types.any (·.count == 0) = false := by
    simpa [List.any_eq_false, Nat.pos_iff_ne_zero] using counts
  have filled : expand types ≠ [] := by
    obtain ⟨type, rest, rfl⟩ := List.exists_cons_of_ne_nil nonempty
    have positive := counts type List.mem_cons_self
    simp [expand, Nat.pos_iff_ne_zero.mp positive]
  let start := handles isa 0 kernel.objects.length ((expand types).map (·.1))
  let switch := handles isa 0 (kernel.objects.length + (expand types).length)
    ((expand types).map (·.2))
  have uniform : ∀ core ∈ start ++ switch, core.isa = isa := by
    intro core mem
    rcases List.mem_append.mp mem with mem | mem
    · exact isa_of_mem_handles mem
    · exact isa_of_mem_handles mem
  have models : ((start ++ switch).map (·.model)).Nodup := by
    rw [List.map_append, models_handles, models_handles, ← List.map_append]
    simp only [List.length_map]
    rw [List.range'_append_1]
    exact List.Nodup.map (f := ModelId.mk) (fun _ _ same => congrArg ModelId.raw same)
      List.nodup_range'
  have slots : start.map (·.slot) = switch.map (·.slot) := by
    rw [slots_handles, slots_handles, List.length_map, List.length_map]
  have occupied : start ≠ [] := by
    rw [← List.length_pos_iff, length_handles, List.length_map, List.length_pos_iff]
    exact filled
  obtain ⟨pair, made, alone, first, second⟩ :=
    exists_ofPairs occupied slots (pairwise_handles _ _ _ _) uniform models
  refine ⟨pair, _, made, alone, first.trans (map_setSwitchedOut_handles _ _ _ _), second, ?_⟩
  rw [ofCoreTypes, counted, if_neg Bool.false_ne_true]
  simp only [instantiateAll_eq, Kernel.length_objects_register, List.length_map]
  refine Prod.ext made ?_
  rw [Kernel.register_register]

/-- On a new kernel core types make a pair whose models are all that the kernel has. -/
theorem exists_on_new_kernel {types : List CoreType} (nonempty : types ≠ [])
    (counts : ∀ type ∈ types, 0 < type.count) (isa : Isa) (seed : UInt64) (ruby : Bool) :
    ∃ pair pairs descriptors, ofPairs pairs = .ok pair ∧ pair.processor.timelines = none ∧
      descriptors.length = 2 * (types.map (·.count)).sum ∧
      pair.processor.allCores.map (·.model) = (List.range descriptors.length).map ModelId.mk ∧
      ofCoreTypes Experiment.instantiate types isa (.create seed ruby) =
        (.ok pair, (Kernel.create seed ruby).register descriptors) := by
  obtain ⟨pair, pairs, made, alone, start, switch, granted⟩ :=
    exists_ofCoreTypes nonempty counts isa (.create seed ruby)
  refine ⟨pair, pairs, _, made, alone, ?_, ?_, granted⟩
  · rw [List.length_append, List.length_map, List.length_map, length_expand, Nat.two_mul]
  · have switched (core : CoreHandle) : (core.setSwitchedOut true).model = core.model := rfl
    rw [(sided_of_ofPairs made).allCores_eq, start, switch, List.map_append, List.map_map]
    simp only [Function.comp_def, switched]
    rw [models_handles, models_handles, ← List.map_append]
    simp only [List.length_map, List.length_append, List.range_eq_range']
    exact congrArg (List.map ModelId.mk) (List.range'_append_1 ..)

end PairProcessor

end Polycore
