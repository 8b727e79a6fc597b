import Polycore.Proofs.Kernel.Objects

/-!
# The work of a quantum

A quantum makes models that execute retire instructions, one after the other, and changes nothing
else that shows in the work of the kernel. So a property of the work that survives
`retire` at a model that executes survives a quantum (`runQuantum_keeps`).
-/

namespace Polycore.Kernel

variable {kernel : Kernel} {model other : ModelId}

/-- The kernel after the object of a model retired some instructions. -/
def retire (kernel : Kernel) (model : ModelId) (instructions : Nat) : Kernel :=
  kernel.modifyObject model (·.retire instructions)

/-! ## One model retires -/

theorem arch?_retire_of_ne (instructions : Nat) (h : other ≠ model) :
    (kernel.retire model instructions).arch? other = kernel.arch? other :=
  arch?_modifyObject_of_ne _ h

theorem arch?_retire_self (kernel : Kernel) (model : ModelId) (instructions : Nat) :
    (kernel.retire model instructions).arch? model =
      (kernel.arch? model).map (·.retire instructions) := by
  rw [retire, arch?, object?_modifyObject_self, arch?]
  cases kernel.object? model with
  | none => rfl
  | some object => rfl

theorem isRunning_retire (kernel : Kernel) (model : ModelId) (instructions : Nat)
    (other : ModelId) :
    (kernel.retire model instructions).isRunning other = kernel.isRunning other := by
  by_cases h : other = model
  · rw [h, isRunning, arch?_retire_self, Option.isSome_map, isRunning]
  · rw [isRunning, arch?_retire_of_ne _ h, isRunning]

theorem retired_retire_of_ne (instructions : Nat) (h : other ≠ model) :
    (kernel.retire model instructions).retired other = kernel.retired other :=
  retired_modifyObject_of_ne _ h

theorem retired_retire_self (h : kernel.isRunning model = true) (instructions : Nat) :
    (kernel.retire model instructions).retired model = kernel.retired model + instructions := by
  obtain ⟨object, hobject⟩ := Option.isSome_iff_exists.mp (isSome_object?_of_isRunning h)
  rw [retire, retired, object?_modifyObject_self, retired, hobject]
  rfl

theorem totalInstructions_retire (h : kernel.isRunning model = true) (instructions : Nat) :
    (kernel.retire model instructions).totalInstructions =
      kernel.totalInstructions + instructions := by
  obtain ⟨arch, harch⟩ := isRunning_iff.mp h
  obtain ⟨object, hobject, harch⟩ := arch?_eq_some_iff.mp harch
  obtain ⟨before, after, hobjects, hretired⟩ := exists_objects_eq (·.retire instructions) hobject
  rw [totalInstructions_eq, totalInstructions_eq, archStates, archStates, retire, hobjects,
    hretired]
  simp only [List.filterMap_append, List.filterMap_cons, CoreObject.retire, harch,
    Option.map_some, List.map_append, List.map_cons, List.sum_append, List.sum_cons,
    ArchState.retire]
  omega

theorem totalRetired_retire (h : kernel.isRunning model = true) (instructions : Nat) :
    (kernel.retire model instructions).totalRetired = kernel.totalRetired + instructions := by
  obtain ⟨object, hobject⟩ := Option.isSome_iff_exists.mp (isSome_object?_of_isRunning h)
  obtain ⟨before, after, hobjects, hretired⟩ := exists_objects_eq (·.retire instructions) hobject
  rw [totalRetired, totalRetired, retire, hobjects, hretired]
  simp only [List.map_append, List.map_cons, List.sum_append, List.sum_cons, CoreObject.retire]
  omega

/-! ## A quantum -/

/-- Running a model is a retirement, as far as the work goes. -/
theorem sameWork_runModel (kernel : Kernel) (ticks : Nat) (fpFraction : Float) (model : ModelId) :
    SameWork (kernel.retire model (kernel.runModel ticks fpFraction model).1)
      (kernel.runModel ticks fpFraction model).2 := by
  unfold runModel
  split
  · next h =>
    refine .of_objects ?_ rfl
    exact (List.modify_eq_self (List.getElem?_eq_none_iff.mp h)).symm
  · exact .of_objects rfl rfl

variable {P : Kernel → Prop}

theorem runModels_keeps (frame : ∀ {kernel next}, SameWork kernel next → P kernel → P next)
    (work : ∀ {kernel model} (instructions : Nat), kernel.isRunning model = true → P kernel →
      P (kernel.retire model instructions))
    {ticks : Nat} {fpFraction : Float} {models : List ModelId}
    (running : ∀ model ∈ models, kernel.isRunning model = true) (h : P kernel) :
    P (runModels ticks fpFraction models kernel).2 := by
  induction models generalizing kernel with
  | nil => exact h
  | cons model rest ih =>
    rw [List.forall_mem_cons] at running
    have ran := kernel.sameWork_runModel ticks fpFraction model
    have still : ∀ other ∈ rest,
        (kernel.runModel ticks fpFraction model).2.isRunning other = true := by
      intro other mem
      rw [ran.isRunning, isRunning_retire]
      exact running.2 other mem
    exact ih still (frame ran (work _ running.1 h))

/-- What depends on the work alone, and survives that a model which executes retires some
instructions, survives a quantum. -/
theorem runQuantum_keeps (frame : ∀ {kernel next}, SameWork kernel next → P kernel → P next)
    (work : ∀ {kernel model} (instructions : Nat), kernel.isRunning model = true → P kernel →
      P (kernel.retire model instructions))
    {ticks : Nat} {fpFraction : Float} (h : P kernel) :
    P (kernel.runQuantum ticks fpFraction).2 := by
  let shuffled := Random.shuffle kernel.running kernel.random
  have executes (model : ModelId) (mem : model ∈ shuffled.1) : kernel.isRunning model = true :=
    mem_running.mp ((Random.shuffle_perm _ _).subset mem)
  let start : Kernel := { kernel with random := shuffled.2 }
  have same : SameWork kernel start := .of_objects rfl rfl
  have ran : P (runModels ticks fpFraction shuffled.1 start).2 :=
    runModels_keeps frame work executes (frame same h)
  have last : SameWork (runModels ticks fpFraction shuffled.1 start).2
      (kernel.runQuantum ticks fpFraction).2 := .of_objects rfl rfl
  exact frame last ran

/-- A quantum neither starts nor stops a model. -/
theorem isRunning_runQuantum (kernel : Kernel) (ticks : Nat) (fpFraction : Float)
    (model : ModelId) :
    (kernel.runQuantum ticks fpFraction).2.isRunning model = kernel.isRunning model :=
  runQuantum_keeps (P := fun next => next.isRunning model = kernel.isRunning model)
    (fun same h => (same.isRunning model).trans h)
    (fun instructions _ h => (isRunning_retire _ _ instructions model).trans h) rfl

theorem booted_runQuantum (kernel : Kernel) (ticks : Nat) (fpFraction : Float) :
    (kernel.runQuantum ticks fpFraction).2.booted = kernel.booted :=
  runQuantum_keeps (P := fun next => next.booted = kernel.booted)
    (fun same h => same.booted.trans h) (fun _ _ h => h) rfl

/-- Instructions are never taken back. -/
theorem totalInstructions_le_runQuantum (kernel : Kernel) (ticks : Nat) (fpFraction : Float) :
    kernel.totalInstructions ≤ (kernel.runQuantum ticks fpFraction).2.totalInstructions :=
  runQuantum_keeps (P := fun next => kernel.totalInstructions ≤ next.totalInstructions)
    (fun same h => same.totalInstructions ▸ h)
    (fun instructions runs h => by
      rw [totalInstructions_retire runs]
      exact Nat.le_add_right_of_le h)
    (Nat.le_refl _)

end Polycore.Kernel
