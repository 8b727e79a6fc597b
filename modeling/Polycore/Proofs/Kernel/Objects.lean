import Mathlib.Algebra.Ring.Nat
import Mathlib.Data.List.Perm.Basic
import Mathlib.Algebra.BigOperators.Group.List.Basic
import Polycore.Kernel.Quantum

/-!
# Objects of the kernel

What a change of one object leaves of the kernel, seen model by model (`Kernel.arch?`,
`Kernel.retired`) and through the sums over all objects (`Kernel.totalInstructions`,
`Kernel.totalRetired`). `SameWork` says that two kernels agree on both views; every request that
neither boots, swaps nor runs a quantum leaves a kernel that does the same work.
-/

namespace Polycore.Kernel

/-- The instructions that the object of a model retired while it executed. A model without an
object counts as one that retired none. -/
def retired (kernel : Kernel) (model : ModelId) : Nat :=
  ((kernel.object? model).map (·.retired)).getD 0

/-- The instructions that all objects together retired. -/
def totalRetired (kernel : Kernel) : Nat :=
  (kernel.objects.map (·.retired)).sum

variable {kernel : Kernel} {model other : ModelId}

/-- A view of the kernel that no step changes is as it was after all steps. -/
theorem view_foldl {α β : Type} (view : Kernel → β) {step : Kernel → α → Kernel}
    (kept : ∀ kernel a, view (step kernel a) = view kernel) (elements : List α)
    (kernel : Kernel) : view (elements.foldl step kernel) = view kernel := by
  induction elements generalizing kernel with
  | nil => rfl
  | cons a rest ih => exact (ih _).trans (kept kernel a)

theorem totalInstructions_eq (kernel : Kernel) :
    kernel.totalInstructions = (kernel.archStates.map (·.instructions)).sum :=
  rfl

theorem isRunning_iff : kernel.isRunning model = true ↔ ∃ arch, kernel.arch? model = some arch :=
  Option.isSome_iff_exists

theorem isRunning_eq_false_iff : kernel.isRunning model = false ↔ kernel.arch? model = none := by
  simp [isRunning]

theorem arch?_eq_some_iff {arch : ArchState} :
    kernel.arch? model = some arch ↔
      ∃ object, kernel.object? model = some object ∧ object.arch = some arch :=
  Option.bind_eq_some_iff

theorem isSome_object?_iff : (kernel.object? model).isSome = true ↔
    model.raw < kernel.objects.length := by
  simp [object?]

theorem isSome_object?_of_isRunning (h : kernel.isRunning model = true) :
    (kernel.object? model).isSome = true := by
  obtain ⟨arch, harch⟩ := isRunning_iff.mp h
  obtain ⟨object, hobject, -⟩ := arch?_eq_some_iff.mp harch
  rw [hobject, Option.isSome_some]

theorem mem_running : model ∈ kernel.running ↔ kernel.isRunning model = true := by
  simp only [running, List.mem_filterMap, List.mem_range, Option.ite_none_right_eq_some,
    Option.some.injEq]
  constructor
  · rintro ⟨index, -, h, rfl⟩
    exact h
  · intro h
    obtain ⟨object, hobject⟩ := Option.isSome_iff_exists.mp (isSome_object?_of_isRunning h)
    exact ⟨model.raw, (List.getElem?_eq_some_iff.mp hobject).1, h, rfl⟩

/-! ## One object changed -/

theorem object?_modifyObject (kernel : Kernel) (model other : ModelId)
    (f : CoreObject → CoreObject) :
    (kernel.modifyObject model f).object? other =
      if other = model then (kernel.object? other).map f else kernel.object? other := by
  cases model with | mk place =>
  cases other with | mk index =>
  simp only [object?, modifyObject, List.getElem?_modify, ModelId.mk.injEq, eq_comm (a := place)]
  split
  · rfl
  · exact Option.map_id'

theorem object?_modifyObject_of_ne (f : CoreObject → CoreObject) (h : other ≠ model) :
    (kernel.modifyObject model f).object? other = kernel.object? other := by
  rw [object?_modifyObject, if_neg h]

theorem object?_modifyObject_self (f : CoreObject → CoreObject) :
    (kernel.modifyObject model f).object? model = (kernel.object? model).map f := by
  rw [object?_modifyObject, if_pos rfl]

/-- The list of objects around the place of a model, before and after a change of its object. -/
theorem exists_objects_eq (f : CoreObject → CoreObject) {object : CoreObject}
    (h : kernel.object? model = some object) :
    ∃ before after, kernel.objects = before ++ object :: after ∧
      (kernel.modifyObject model f).objects = before ++ f object :: after := by
  obtain ⟨hlt, hget⟩ := List.getElem?_eq_some_iff.mp h
  obtain ⟨before, found, after, hobjects, hlength, hmodify⟩ := List.exists_of_modify f hlt
  have hfound : found = object := by
    rw [← hget]
    simp [hobjects, ← hlength]
  exact ⟨before, after, hfound ▸ hobjects, hfound ▸ hmodify⟩

theorem arch?_modifyObject_of_ne (f : CoreObject → CoreObject) (h : other ≠ model) :
    (kernel.modifyObject model f).arch? other = kernel.arch? other := by
  rw [arch?, object?_modifyObject_of_ne f h, arch?]

theorem arch?_modifyObject_self (f : CoreObject → CoreObject) {object : CoreObject}
    (h : kernel.object? model = some object) :
    (kernel.modifyObject model f).arch? model = (f object).arch := by
  rw [arch?, object?_modifyObject_self, h]
  rfl

theorem retired_modifyObject_of_ne (f : CoreObject → CoreObject) (h : other ≠ model) :
    (kernel.modifyObject model f).retired other = kernel.retired other := by
  rw [retired, object?_modifyObject_of_ne f h, retired]

/-- A change of an object that leaves its count alone leaves all counts alone. -/
theorem retired_modifyObject (f : CoreObject → CoreObject)
    (h : ∀ object, (f object).retired = object.retired) (model other : ModelId) :
    (kernel.modifyObject model f).retired other = kernel.retired other := by
  rw [retired, retired, object?_modifyObject]
  split
  · rw [Option.map_map]
    congr 2
    exact funext h
  · rfl

/-- A change of an object that leaves its architectural state alone leaves all of them alone. -/
theorem arch?_modifyObject (f : CoreObject → CoreObject)
    (h : ∀ object, (f object).arch = object.arch) (model other : ModelId) :
    (kernel.modifyObject model f).arch? other = kernel.arch? other := by
  rw [arch?, arch?, object?_modifyObject]
  split
  · rw [Option.bind_map]
    congr 1
    exact funext h
  · rfl

/-- A change of an object that a view does not show leaves the view of all objects as it was. -/
theorem map_objects_modifyObject {α : Type} (view : CoreObject → α) (f : CoreObject → CoreObject)
    (h : ∀ object, view (f object) = view object) (kernel : Kernel) (model : ModelId) :
    (kernel.modifyObject model f).objects.map view = kernel.objects.map view := by
  refine List.ext_getElem? fun place => ?_
  simp only [modifyObject, List.getElem?_map, List.getElem?_modify, Option.map_eq_map,
    Option.map_map]
  congr 1
  funext object
  simp only [Function.comp_apply]
  split
  · exact h object
  · rfl

/-- A registration adds one object and leaves the others in place. -/
theorem object?_instantiate_cases (kernel : Kernel) (descriptor : CoreModel) (model : ModelId) :
    (kernel.instantiate descriptor).2.object? model = kernel.object? model ∨
      kernel.object? model = none ∧
        (kernel.instantiate descriptor).2.object? model = some (.create descriptor) := by
  simp only [object?, Kernel.instantiate]
  rcases Nat.lt_trichotomy model.raw kernel.objects.length with h | h | h
  · exact .inl (List.getElem?_append_left h)
  · refine .inr ⟨List.getElem?_eq_none_iff.mpr (Nat.le_of_eq h.symm), ?_⟩
    rw [h, List.getElem?_append_right (Nat.le_refl _), Nat.sub_self]
    exact rfl
  · refine .inl ?_
    rw [List.getElem?_eq_none_iff.mpr (Nat.le_of_lt h), List.getElem?_eq_none_iff.mpr]
    rw [List.length_append]
    exact h

/-! ## Kernels that do the same work -/

/-- Two kernels in which every model executes alike and has retired alike. -/
structure SameWork (kernel next : Kernel) : Prop where
  arch : ∀ model, next.arch? model = kernel.arch? model
  retired : ∀ model, next.retired model = kernel.retired model
  archStates : next.archStates = kernel.archStates
  totalRetired : next.totalRetired = kernel.totalRetired
  booted : next.booted = kernel.booted

namespace SameWork

variable {next last : Kernel}

theorem refl (kernel : Kernel) : SameWork kernel kernel :=
  ⟨fun _ => rfl, fun _ => rfl, rfl, rfl, rfl⟩

theorem trans (first : SameWork kernel next) (second : SameWork next last) :
    SameWork kernel last where
  arch model := (second.arch model).trans (first.arch model)
  retired model := (second.retired model).trans (first.retired model)
  archStates := second.archStates.trans first.archStates
  totalRetired := second.totalRetired.trans first.totalRetired
  booted := second.booted.trans first.booted

/-- Kernels with the same objects do the same work, whatever their clocks and settings. -/
theorem of_objects (objects : next.objects = kernel.objects)
    (booted : next.booted = kernel.booted) : SameWork kernel next := by
  have object (model : ModelId) : next.object? model = kernel.object? model := by
    rw [object?, objects, object?]
  refine ⟨fun model => ?_, fun model => ?_, ?_, ?_, booted⟩
  · rw [arch?, object, arch?]
  · rw [Kernel.retired, object, Kernel.retired]
  · rw [Kernel.archStates, objects, Kernel.archStates]
  · rw [Kernel.totalRetired, objects, Kernel.totalRetired]

/-- A model that is put on a timeline works as before. -/
theorem setTimeline (kernel : Kernel) (model : ModelId) (timeline : Timeline) :
    SameWork kernel (kernel.modifyObject model (·.setTimeline timeline)) where
  arch := arch?_modifyObject (fun object => object.setTimeline timeline) (fun _ => rfl) model
  retired := retired_modifyObject (fun object => object.setTimeline timeline) (fun _ => rfl) model
  archStates := by
    have h := map_objects_modifyObject (·.arch) (·.setTimeline timeline) (fun _ => rfl) kernel
      model
    simpa only [Kernel.archStates, List.filterMap_map, Function.id_comp] using
      congrArg (List.filterMap id) h
  totalRetired := congrArg List.sum <|
    map_objects_modifyObject (·.retired) (·.setTimeline timeline) (fun _ => rfl) kernel model
  booted := rfl

/-- A new object is idle and has retired nothing. -/
theorem instantiate (kernel : Kernel) (descriptor : CoreModel) :
    SameWork kernel (kernel.instantiate descriptor).2 := by
  refine ⟨fun model => ?_, fun model => ?_, ?_, ?_, rfl⟩
  · rcases kernel.object?_instantiate_cases descriptor model with h | ⟨old, new⟩
    · rw [arch?, h, arch?]
    · rw [arch?, arch?, old, new]
      exact rfl
  · rcases kernel.object?_instantiate_cases descriptor model with h | ⟨old, new⟩
    · rw [Kernel.retired, h, Kernel.retired]
    · rw [Kernel.retired, Kernel.retired, old, new]
      exact rfl
  · simp [Kernel.archStates, Kernel.instantiate, CoreObject.create]
  · simp [Kernel.totalRetired, Kernel.instantiate, CoreObject.create]

theorem assignTimeline (kernel : Kernel) (model : ModelId) (timeline : Timeline) :
    SameWork kernel (kernel.assignTimeline model timeline).2 := by
  unfold Kernel.assignTimeline
  split
  · exact refl kernel
  · split
    · exact refl kernel
    · exact (setTimeline kernel model timeline).trans (of_objects rfl rfl)

theorem isRunning (h : SameWork kernel next) (model : ModelId) :
    next.isRunning model = kernel.isRunning model := by
  rw [Kernel.isRunning, h.arch, Kernel.isRunning]

theorem totalInstructions (h : SameWork kernel next) :
    next.totalInstructions = kernel.totalInstructions := by
  rw [totalInstructions_eq, h.archStates, totalInstructions_eq]

end SameWork

end Polycore.Kernel
