import Polycore.Proofs.Kernel.Armed

/-!
# Conservation of work

Whoever asks a kernel for what, the instructions that the running architectural states count are
those that the objects retired. A quantum adds to both what its statistics say
(`Kernel.totalInstructions_runQuantum`), a swap moves states about and keeps their number, and
nothing but the boot starts an object. The main statement is `work_conserved`.
-/

namespace Polycore.Kernel

variable {kernel : Kernel} {ticks : Nat} {fpFraction : Float} {models : List ModelId}

/-! ## What a quantum adds -/

theorem totalInstructions_runModel {model : ModelId} (runs : kernel.isRunning model = true)
    (ticks : Nat) (fpFraction : Float) :
    (kernel.runModel ticks fpFraction model).2.totalInstructions =
      kernel.totalInstructions + (kernel.runModel ticks fpFraction model).1 := by
  rw [(kernel.sameWork_runModel ticks fpFraction model).totalInstructions,
    totalInstructions_retire runs]

theorem isRunning_runModel (kernel : Kernel) (ticks : Nat) (fpFraction : Float)
    (model other : ModelId) :
    (kernel.runModel ticks fpFraction model).2.isRunning other = kernel.isRunning other := by
  rw [(kernel.sameWork_runModel ticks fpFraction model).isRunning, isRunning_retire]

theorem totalInstructions_runModels (running : ∀ model ∈ models, kernel.isRunning model = true) :
    (runModels ticks fpFraction models kernel).2.totalInstructions =
      kernel.totalInstructions + (runModels ticks fpFraction models kernel).1 := by
  induction models generalizing kernel with
  | nil => rfl
  | cons model rest ih =>
    rw [List.forall_mem_cons] at running
    have still : ∀ other ∈ rest,
        (kernel.runModel ticks fpFraction model).2.isRunning other = true := by
      intro other mem
      rw [isRunning_runModel]
      exact running.2 other mem
    simp only [runModels]
    rw [ih still, totalInstructions_runModel running.1, Nat.add_assoc]

/-- A quantum adds to the count of all running states exactly what its statistics say. -/
theorem totalInstructions_runQuantum (kernel : Kernel) (ticks : Nat) (fpFraction : Float) :
    (kernel.runQuantum ticks fpFraction).2.totalInstructions =
      kernel.totalInstructions + (kernel.runQuantum ticks fpFraction).1.instructions := by
  let shuffled := Random.shuffle kernel.running kernel.random
  let drawn : Kernel := { kernel with random := shuffled.2 }
  have executes : ∀ model ∈ shuffled.1, drawn.isRunning model = true := by
    intro model mem
    exact mem_running.mp ((Random.shuffle_perm kernel.running kernel.random).subset mem)
  exact totalInstructions_runModels executes

/-! ## How many objects run -/

/-- The running architectural states are those of the models that execute, in their order. -/
theorem filterMap_arch?_running (kernel : Kernel) :
    kernel.running.filterMap kernel.arch? = kernel.archStates := by
  have objects : (List.range kernel.objects.length).map (kernel.objects[·]?) =
      kernel.objects.map some :=
    List.ext_getElem (by simp) (by simp)
  have states := congrArg (List.filterMap fun object => object.bind (·.arch)) objects
  rw [List.filterMap_map, List.filterMap_map] at states
  refine Eq.trans ?_ states
  rw [running, List.filterMap_filterMap]
  refine List.filterMap_congr fun index _ => ?_
  cases runs : kernel.isRunning ⟨index⟩ with
  | true => rfl
  | false => exact (isRunning_eq_false_iff.mp runs).symm

theorem length_running (kernel : Kernel) : kernel.running.length = kernel.archStates.length := by
  rw [← filterMap_arch?_running, List.length_filterMap_eq_countP, eq_comm, List.countP_eq_length]
  exact fun model => mem_running.mp

theorem running_runQuantum (kernel : Kernel) (ticks : Nat) (fpFraction : Float) :
    (kernel.runQuantum ticks fpFraction).2.running = kernel.running := by
  have registered : (kernel.runQuantum ticks fpFraction).2.objects.length = kernel.objects.length :=
    kernel.length_objects_perform (.runQuantum ticks fpFraction)
  simp only [running, registered, isRunning_runQuantum]

theorem booted_perform (booted : kernel.booted = true) (request : Request) :
    (kernel.perform request).booted = true := by
  by_contra unbooted
  rw [Bool.not_eq_true] at unbooted
  exact Bool.false_ne_true ((unbooted_of_perform unbooted).symm.trans booted)

/-- Once the kernel has booted no request changes how many objects run. -/
theorem length_running_perform (booted : kernel.booted = true) (request : Request) :
    (kernel.perform request).running.length = kernel.running.length := by
  cases request with
  | boot active =>
    rcases kernel.boot_cases active with ⟨_, refused⟩ | ⟨unbooted, -, -⟩
    · rw [perform, refused]
    · cases unbooted.symm.trans booted
  | swap pairs =>
    rw [length_running, length_running]
    exact (kernel.archStates_swap_perm pairs).length_eq
  | runQuantum ticks fpFraction =>
    exact congrArg List.length (kernel.running_runQuantum ticks fpFraction)
  | _ => rw [length_running, length_running, (kernel.sameWork_perform rfl).archStates]

theorem length_running_foldl_perform (booted : kernel.booted = true) (requests : List Request) :
    (requests.foldl perform kernel).running.length = kernel.running.length := by
  induction requests generalizing kernel with
  | nil => rfl
  | cons request rest ih =>
    exact (ih (booted_perform booted request)).trans (length_running_perform booted request)

/-- Whatever was asked of a kernel, swaps of any pairs included, its running states count what its
objects retired, and every program counter stands where its count puts it. Once it has booted the
number of running objects is settled, no swap changes more than who holds which state, and a quantum
adds to the count what its statistics say. -/
theorem work_conserved (seed : UInt64) (ruby : Bool) (requests : List Request) :
    let kernel := requests.foldl perform (create seed ruby)
    kernel.totalInstructions = (kernel.objects.map (·.retired)).sum ∧
      (∀ model state, kernel.arch? model = some state →
        state.pc.toNat = (0xFFFFFFF0 + 4 * state.instructions) % 2 ^ 64) ∧
      (kernel.booted = true → ∀ later : List Request,
        (later.foldl perform kernel).running.length = kernel.running.length) ∧
      (∀ pairs, (kernel.swap pairs).2.archStates.Perm kernel.archStates) ∧
      ∀ ticks fpFraction,
        (kernel.runQuantum ticks fpFraction).2.totalInstructions =
          kernel.totalInstructions + (kernel.runQuantum ticks fpFraction).1.instructions := by
  intro kernel
  have books : kernel.Books := (reachable_foldl_perform requests (.create seed ruby)).books
  refine ⟨books.conserved, ?_, ?_, kernel.archStates_swap_perm, kernel.totalInstructions_runQuantum⟩
  · exact fun model state => books.counted_of_arch?
  · exact fun booted later => length_running_foldl_perform booted later

end Polycore.Kernel
