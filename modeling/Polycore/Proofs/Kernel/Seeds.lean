import Polycore.Proofs.Kernel.Aside

/-!
# What the seed decides

The seed decides in which order the models of a quantum run, and how far those on isolated timelines
run ahead. As long as all objects stand on the shared timeline (`Kernel.OnShared`) the order makes
no difference (`retireAll_perm`), so two kernels that differ in the seed alone answer every request
alike (`Twins.answer`) and differ in nothing else afterwards (`Twins.perform`).
-/

namespace Polycore.Kernel

variable {kernel other : Kernel} {ticks : Nat} {fpFraction : Float} {models order : List ModelId}

/-- What a kernel is apart from its seed and what was drawn with it. -/
def seedless (kernel : Kernel) : Kernel :=
  { kernel with seed := 0, random := .ofSeed 0 }

theorem aside_seedless : Aside seedless :=
  ⟨fun _ _ => rfl, fun _ _ => rfl, fun _ _ => rfl⟩

/-- All objects stand on the shared timeline. -/
def OnShared (kernel : Kernel) : Prop :=
  ∀ object ∈ kernel.objects, object.timeline.isShared = true

instance (kernel : Kernel) : Decidable kernel.OnShared :=
  inferInstanceAs (Decidable (∀ object ∈ kernel.objects, object.timeline.isShared = true))

theorem OnShared.of_places (shared : kernel.OnShared) (places : other.places = kernel.places) :
    other.OnShared := by
  have stand : ∀ place ∈ other.places, place.1.isShared = true := by
    rw [places]
    exact List.forall_mem_map.mpr shared
  exact List.forall_mem_map.mp stand

/-! ## Retirements in any order -/

theorem retire_retire (kernel : Kernel) (first second : ModelId) (m n : Nat) :
    (kernel.retire first m).retire second n = (kernel.retire second n).retire first m := by
  have commute (object : CoreObject) :
      (object.retire m).retire n = (object.retire n).retire m := by
    have counted (state : ArchState) : (state.retire m).retire n = (state.retire n).retire m := by
      simp only [ArchState.retire, Nat.add_right_comm, UInt64.add_assoc]
      rw [UInt64.add_comm (.ofNat (4 * m))]
    simp only [CoreObject.retire, Option.map_map, Nat.add_right_comm]
    congr 1
    exact congrArg (object.arch.map ·) (funext counted)
  have objects : (kernel.objects.modify first.raw (·.retire m)).modify second.raw (·.retire n) =
      (kernel.objects.modify second.raw (·.retire n)).modify first.raw (·.retire m) := by
    by_cases same : first.raw = second.raw
    · rw [same, List.modify_modify_eq, List.modify_modify_eq]
      exact congrArg (kernel.objects.modify second.raw ·) (funext commute)
    · exact List.modify_modify_ne _ _ _ same
  simp only [retire, modifyObject, objects]

/-- Each of some models retires what is due from it. -/
def retireAll (dues : ModelId → Nat) (models : List ModelId) (kernel : Kernel) : Kernel :=
  models.foldl (fun kernel model => kernel.retire model (dues model)) kernel

/-- It makes no difference who retires first. -/
theorem retireAll_perm (dues : ModelId → Nat) (perm : order.Perm models) (kernel : Kernel) :
    kernel.retireAll dues order = kernel.retireAll dues models :=
  perm.foldl_eq' (fun first _ second _ kernel => kernel.retire_retire first second _ _) kernel

theorem seedless_retireAll (dues : ModelId → Nat) (models : List ModelId) (kernel : Kernel) :
    (kernel.retireAll dues models).seedless = kernel.seedless.retireAll dues models := by
  refine (List.foldl_hom seedless fun _ _ => ?_).symm
  rfl

theorem clocks_retireAll (dues : ModelId → Nat) (models : List ModelId) (kernel : Kernel) :
    (kernel.retireAll dues models).clocks = kernel.clocks := by
  refine view_foldl (·.clocks) (fun _ _ => ?_) models kernel
  rfl

/-! ## A quantum on the shared timeline -/

/-- The instructions that a model on the shared timeline retires in some ticks. -/
def due (kernel : Kernel) (ticks : Nat) (fpFraction : Float) (model : ModelId) : Nat :=
  ((kernel.object? model).map (·.descriptor.instructionsIn ticks fpFraction)).getD 0

theorem due_retire (kernel : Kernel) (model : ModelId) (instructions : Nat) :
    (kernel.retire model instructions).due = kernel.due := by
  funext ticks fpFraction later
  rw [due, retire, object?_modifyObject, due]
  split
  · rw [Option.map_map]
    rfl
  · rfl

theorem OnShared.retire (shared : kernel.OnShared) (model : ModelId) (instructions : Nat) :
    (kernel.retire model instructions).OnShared :=
  shared.of_places (places_modifyObject (f := fun object => object.retire instructions)
    (fun _ => rfl) kernel model)

/-- A model on the shared timeline draws nothing and moves no clock. -/
theorem runModel_of_onShared (shared : kernel.OnShared) (ticks : Nat) (fpFraction : Float)
    (model : ModelId) :
    kernel.runModel ticks fpFraction model =
      (kernel.due ticks fpFraction model,
        kernel.retire model (kernel.due ticks fpFraction model)) := by
  unfold runModel
  split
  · next unknown =>
    have due : kernel.due ticks fpFraction model = 0 := by rw [due, unknown]; rfl
    have same : kernel.retire model 0 = kernel := by
      rw [retire, modifyObject, List.modify_eq_self (List.getElem?_eq_none_iff.mp unknown)]
    rw [due, same]
  · next object found =>
    have stands := shared object (List.mem_of_getElem? found)
    have due : kernel.due ticks fpFraction model =
        object.descriptor.instructionsIn ticks fpFraction := by rw [due, found]; rfl
    simp only [drawAdvance, stands, if_true, due]
    rfl

theorem runModels_of_onShared (shared : kernel.OnShared) (ticks : Nat) (fpFraction : Float)
    (models : List ModelId) :
    runModels ticks fpFraction models kernel =
      ((models.map (kernel.due ticks fpFraction)).sum,
        kernel.retireAll (kernel.due ticks fpFraction) models) := by
  induction models generalizing kernel with
  | nil => rfl
  | cons model rest ih =>
    simp only [runModels, runModel_of_onShared shared]
    rw [ih (shared.retire _ _), due_retire]
    rfl

/-- A quantum on the shared timeline, up to what was drawn for its order. -/
theorem runQuantum_of_onShared (shared : kernel.OnShared) (ticks : Nat) (fpFraction : Float) :
    Prod.map id seedless (kernel.runQuantum ticks fpFraction) =
      ({ instructions := (kernel.running.map (kernel.due ticks fpFraction)).sum
         globalTick := kernel.tick + ticks },
        { kernel.seedless.retireAll (kernel.due ticks fpFraction) kernel.running with
          clocks := kernel.clocks.advanceShared ticks }) := by
  let shuffled := Random.shuffle kernel.running kernel.random
  let drawn : Kernel := { kernel with random := shuffled.2 }
  have sharedDrawn : drawn.OnShared := shared
  have perm : shuffled.1.Perm kernel.running := Random.shuffle_perm _ _
  let finish (ran : Nat × Kernel) : QuantumStats × Kernel :=
    ({ instructions := ran.1, globalTick := ran.2.tick + ticks },
      { ran.2 with clocks := ran.2.clocks.advanceShared ticks })
  have ran : kernel.runQuantum ticks fpFraction = _ :=
    congrArg finish (runModels_of_onShared sharedDrawn ticks fpFraction shuffled.1)
  have clocks := clocks_retireAll (drawn.due ticks fpFraction) shuffled.1 drawn
  have retired : (drawn.retireAll (drawn.due ticks fpFraction) shuffled.1).seedless =
      kernel.seedless.retireAll (kernel.due ticks fpFraction) kernel.running := by
    rw [seedless_retireAll, retireAll_perm _ perm]
    rfl
  rw [ran]
  refine Prod.ext ?_ ?_
  · change QuantumStats.mk _ (Clocks.shared _ + ticks) = _
    rw [clocks, (perm.map _).sum_eq]
    rfl
  · change ({ (drawn.retireAll _ shuffled.1).seedless with
      clocks := Clocks.advanceShared ticks _ } : Kernel) = _
    rw [clocks, retired]

theorem runQuantum_seedless (shared : kernel.OnShared) (ticks : Nat) (fpFraction : Float) :
    Prod.map id seedless (kernel.seedless.runQuantum ticks fpFraction) =
      Prod.map id seedless (kernel.runQuantum ticks fpFraction) := by
  have sharedToo : kernel.seedless.OnShared := shared
  exact (runQuantum_of_onShared sharedToo ticks fpFraction).trans
    (runQuantum_of_onShared shared ticks fpFraction).symm

/-! ## Requests -/

theorem swapError?_seedless (kernel : Kernel) (seen : List ModelId)
    (pairs : List (ModelId × ModelId)) :
    kernel.seedless.swapError? seen pairs = kernel.swapError? seen pairs := by
  induction pairs generalizing seen with
  | nil => rfl
  | cons pair rest ih =>
    have first : kernel.seedless.handOverError? pair.1 pair.2 =
        kernel.handOverError? pair.1 pair.2 := rfl
    rw [swapError?, swapError?, first, ih]

theorem swap_seedless (kernel : Kernel) (pairs : List (ModelId × ModelId)) :
    kernel.seedless.swap pairs = Prod.map id seedless (kernel.swap pairs) := by
  have exchanged : kernel.seedless.exchange pairs = (kernel.exchange pairs).seedless := by
    have moved : pairs.foldl handOver kernel.synchronize.2.seedless =
        (pairs.foldl handOver kernel.synchronize.2).seedless := by
      refine List.foldl_hom seedless fun _ _ => ?_
      rfl
    exact congrArg (fun moved : Kernel => { moved with swaps := kernel.swaps + 1 }) moved
  have armed : kernel.seedless.armedSwap = kernel.armedSwap := rfl
  have booted : kernel.seedless.booted = kernel.booted := rfl
  rw [swap, swap, armed, booted, swapError?_seedless, exchanged]
  cases kernel.armedSwap with
  | some reason => rfl
  | none =>
    dsimp only
    split
    · rfl
    · cases kernel.swapError? [] pairs <;> rfl

/-- What a kernel answers to a request. -/
inductive Response where
  | registered (model : ModelId)
  | settled (outcome : Except BoardError Unit)
  | ran (stats : QuantumStats)
  | synchronized (tick : Nat)
  | done

def answer (kernel : Kernel) : Request → Response
  | .instantiate descriptor => .registered (kernel.instantiate descriptor).1
  | .boot active => .settled (kernel.boot active).1
  | .assignTimeline model timeline => .settled (kernel.assignTimeline model timeline).1
  | .swap pairs => .settled (kernel.swap pairs).1
  | .runQuantum ticks fpFraction => .ran (kernel.runQuantum ticks fpFraction).1
  | .synchronize => .synchronized kernel.synchronize.1
  | .enableHostAcceleration => .settled (Board.enableHostAcceleration kernel).1
  | .failNextSwap _ | .setMemMode _ => .done

theorem answer_seedless (shared : kernel.OnShared) (request : Request) :
    kernel.seedless.answer request = kernel.answer request := by
  cases request with
  | boot active => exact congrArg (Response.settled ·.1) (aside_seedless.boot kernel active)
  | assignTimeline model timeline =>
    exact congrArg (Response.settled ·.1) (aside_seedless.assignTimeline kernel model timeline)
  | swap pairs => exact congrArg (Response.settled ·.1) (kernel.swap_seedless pairs)
  | runQuantum ticks fpFraction =>
    exact congrArg (Response.ran ·.1) (runQuantum_seedless shared ticks fpFraction)
  | instantiate | synchronize | failNextSwap | enableHostAcceleration | setMemMode => rfl

theorem perform_seedless (shared : kernel.OnShared) (request : Request) :
    (kernel.seedless.perform request).seedless = (kernel.perform request).seedless := by
  cases request with
  | boot active => exact congrArg (·.2.seedless) (aside_seedless.boot kernel active)
  | assignTimeline model timeline =>
    exact congrArg (·.2.seedless) (aside_seedless.assignTimeline kernel model timeline)
  | swap pairs => exact congrArg (·.2.seedless) (kernel.swap_seedless pairs)
  | runQuantum ticks fpFraction =>
    exact congrArg Prod.snd (runQuantum_seedless shared ticks fpFraction)
  | instantiate | synchronize | failNextSwap | enableHostAcceleration | setMemMode => rfl

/-! ## Kernels that differ in the seed -/

/-- Two kernels that differ in the seed and in what was drawn with it alone, with all objects on the
shared timeline. -/
structure Twins (kernel twin : Kernel) : Prop where
  same : twin.seedless = kernel.seedless
  shared : kernel.OnShared

namespace Twins

variable {twin : Kernel}

theorem create (seed seed' : UInt64) (ruby : Bool) :
    Twins (.create seed ruby) (.create seed' ruby) :=
  ⟨rfl, nofun⟩

theorem shared_twin (h : Twins kernel twin) : twin.OnShared := by
  have shared : kernel.seedless.OnShared := h.shared
  rwa [← h.same] at shared

theorem answer (h : Twins kernel twin) (request : Request) :
    twin.answer request = kernel.answer request := by
  rw [← answer_seedless h.shared_twin, h.same, answer_seedless h.shared]

/-- What does not see the seed sees no difference. -/
theorem view {α : Type} (h : Twins kernel twin) (view : Kernel → α)
    (blind : ∀ kernel : Kernel, view kernel.seedless = view kernel) : view twin = view kernel := by
  rw [← blind, h.same, blind]

/-- Twins stay twins as long as no request puts an object on an isolated timeline. -/
theorem perform (h : Twins kernel twin) {request : Request}
    (shared : (kernel.perform request).OnShared) :
    Twins (kernel.perform request) (twin.perform request) := by
  refine ⟨?_, shared⟩
  rw [← perform_seedless h.shared_twin, h.same, perform_seedless h.shared]

theorem perform_of_unplacing (h : Twins kernel twin) (request : Request)
    (unplacing : request.isPlacing = false) :
    Twins (kernel.perform request) (twin.perform request) :=
  h.perform (h.shared.of_places (places_perform kernel unplacing))

theorem foldl_perform (h : Twins kernel twin) {requests : List Request}
    (shared : ∀ before, before <+: requests → (before.foldl Kernel.perform kernel).OnShared) :
    Twins (requests.foldl Kernel.perform kernel) (requests.foldl Kernel.perform twin) := by
  induction requests generalizing kernel twin with
  | nil => exact h
  | cons request rest ih =>
    have first : [request] <+: request :: rest := ⟨rest, rfl⟩
    refine ih (h.perform (shared [request] first)) fun before part => ?_
    exact shared (request :: before) ((List.prefix_cons_inj request).mpr part)

end Twins

end Polycore.Kernel
