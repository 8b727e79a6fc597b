import Polycore.Proofs.Kernel.Aside

/-!
# Armed refusals

Only swaps and the arming of a refusal change what a kernel remembers about swaps
(`Kernel.swapRecord_perform`). A refusal that is armed shows in nothing but the answer to the next
swap: every other operation answers as it would without it, and leaves the kernel that it would
leave, armed.
-/

namespace Polycore.Kernel

/-- Asks for the next swap to be refused. -/
def Request.isArming : Request → Bool
  | failNextSwap _ => true
  | _ => false

/-- What a kernel remembers about swaps: the refusal that is armed, and how many there were. -/
def swapRecord (kernel : Kernel) : Option String × Nat :=
  (kernel.armedSwap, kernel.swaps)

theorem swapRecord_runModel (kernel : Kernel) (ticks : Nat) (fpFraction : Float)
    (model : ModelId) :
    (kernel.runModel ticks fpFraction model).2.swapRecord = kernel.swapRecord := by
  unfold runModel
  split
  · rfl
  · rfl

theorem swapRecord_startAll (active : List ModelId) (kernel : Kernel) :
    (kernel.startAll active).swapRecord = kernel.swapRecord := by
  refine view_foldl (·.swapRecord) (fun _ _ => ?_) active kernel
  rfl

/-- Only a swap and the arming of a refusal change what a kernel remembers about swaps. -/
theorem swapRecord_perform (kernel : Kernel) (request : Request) (indirect : request.isSwap = false)
    (unarming : request.isArming = false) :
    (kernel.perform request).swapRecord = kernel.swapRecord := by
  cases request with
  | swap => cases indirect
  | failNextSwap => cases unarming
  | boot active =>
    rw [perform]
    rcases kernel.boot_cases active with ⟨_, h⟩ | ⟨_, _, h⟩
    · rw [h]
    · rw [h]
      exact swapRecord_startAll active kernel
  | assignTimeline model timeline =>
    rw [perform]
    rcases kernel.assignTimeline_cases model timeline with ⟨_, h⟩ | ⟨_, _, h⟩
    · rw [h]
    · rw [h]
      rfl
  | runQuantum ticks fpFraction =>
    exact runModels_of_runModel (P := fun next => next.swapRecord = kernel.swapRecord)
      (fun model h => (swapRecord_runModel _ _ _ model).trans h) _ rfl
  | instantiate | synchronize | enableHostAcceleration | setMemMode => rfl

theorem swaps_perform (kernel : Kernel) (request : Request) (indirect : request.isSwap = false) :
    (kernel.perform request).swaps = kernel.swaps := by
  cases arming : request.isArming with
  | false => exact congrArg Prod.snd (kernel.swapRecord_perform request indirect arming)
  | true =>
    cases request with
    | failNextSwap => rfl
    | _ => cases arming

theorem armedSwap_exchange (pairs : List (ModelId × ModelId)) (kernel : Kernel) :
    (kernel.exchange pairs).armedSwap = kernel.armedSwap := by
  refine view_foldl (·.armedSwap) (fun _ _ => ?_) pairs kernel.synchronize.2
  rfl

/-- A kernel that has booted stays booted. -/
theorem unbooted_of_perform {kernel : Kernel} {request : Request}
    (h : (kernel.perform request).booted = false) : kernel.booted = false := by
  cases request with
  | boot active =>
    rcases kernel.boot_cases active with ⟨_, refused⟩ | ⟨unbooted, -, -⟩
    · rwa [perform, refused] at h
    · exact unbooted
  | swap pairs => exact (booted_swap kernel pairs).symm.trans h
  | runQuantum ticks fpFraction => exact (booted_runQuantum kernel ticks fpFraction).symm.trans h
  | _ => exact (kernel.sameWork_perform rfl).booted.symm.trans h

/-- No swap is granted before the boot. -/
theorem ReachableBy.swaps_eq_zero {allowed : Request → Prop} {kernel : Kernel}
    (h : ReachableBy allowed kernel) (unbooted : kernel.booted = false) : kernel.swaps = 0 := by
  induction h with
  | create => rfl
  | @perform kernel request _ _ ih =>
    have before := unbooted_of_perform unbooted
    refine Eq.trans ?_ (ih before)
    cases request with
    | swap pairs =>
      rw [Kernel.perform]
      rcases kernel.swap_cases pairs with ⟨_, _, h⟩ | ⟨_, _, h⟩ | ⟨_, booted, _⟩
      · rw [h]
      · rw [h]
      · cases before.symm.trans booted
    | _ => exact kernel.swaps_perform _ rfl

theorem swap_failNextSwap {kernel : Kernel} (unarmed : kernel.armedSwap = none) (reason : String)
    (pairs : List (ModelId × ModelId)) :
    (kernel.failNextSwap reason).swap pairs = (.error (.swapFailed reason), kernel) := by
  have disarmed : { kernel with armedSwap := none } = kernel := unarmed ▸ rfl
  exact congrArg _ disarmed

variable (reason : String) (kernel : Kernel)

/-- The refusal that is armed has no part in boots and assignments. -/
theorem aside_failNextSwap : Aside (failNextSwap reason) :=
  ⟨fun _ _ => rfl, fun _ _ => rfl, fun _ _ => rfl⟩

theorem assignTimeline_failNextSwap (model : ModelId) (timeline : Timeline) :
    (kernel.failNextSwap reason).assignTimeline model timeline =
      Prod.map id (failNextSwap reason) (kernel.assignTimeline model timeline) :=
  (aside_failNextSwap reason).assignTimeline kernel model timeline

theorem boot_failNextSwap (active : List ModelId) :
    (kernel.failNextSwap reason).boot active =
      Prod.map id (failNextSwap reason) (kernel.boot active) :=
  (aside_failNextSwap reason).boot kernel active

theorem runModel_failNextSwap (ticks : Nat) (fpFraction : Float) (model : ModelId) :
    (kernel.failNextSwap reason).runModel ticks fpFraction model =
      Prod.map id (failNextSwap reason) (kernel.runModel ticks fpFraction model) := by
  have object : (kernel.failNextSwap reason).object? model = kernel.object? model := rfl
  rw [runModel, runModel, object]
  cases kernel.object? model with
  | none => rfl
  | some found => rfl

theorem runModels_failNextSwap (ticks : Nat) (fpFraction : Float) (models : List ModelId) :
    runModels ticks fpFraction models (kernel.failNextSwap reason) =
      Prod.map id (failNextSwap reason) (runModels ticks fpFraction models kernel) := by
  induction models generalizing kernel with
  | nil => rfl
  | cons model rest ih =>
    rw [runModels, runModel_failNextSwap]
    dsimp only [Prod.map]
    rw [ih]
    rfl

theorem runQuantum_failNextSwap (ticks : Nat) (fpFraction : Float) :
    (kernel.failNextSwap reason).runQuantum ticks fpFraction =
      Prod.map id (failNextSwap reason) (kernel.runQuantum ticks fpFraction) := by
  let shuffled := Random.shuffle kernel.running kernel.random
  let finish (ran : Nat × Kernel) : QuantumStats × Kernel :=
    ({ instructions := ran.1, globalTick := ran.2.tick + ticks },
      { ran.2 with clocks := ran.2.clocks.advanceShared ticks })
  have ran := runModels_failNextSwap reason { kernel with random := shuffled.2 } ticks fpFraction
    shuffled.1
  exact congrArg finish ran

end Polycore.Kernel
