import Polycore.Board.Basic
import Polycore.Core.Model
import Polycore.Kernel.Clocks
import Polycore.Random.Draw

/-!
# The simulated kernel

The kernel is the board that executes core models. Core objects are registered one after the other,
so that a model's number is its place in the list of objects. At boot some objects begin to execute;
later changes of who executes are swaps, which are all or nothing: every running architectural state
moves to the object that takes over. This module holds the state and every operation but the
simulation of time, which is in `Kernel/Quantum`.
-/

namespace Polycore

/-- Architectural state of a logical core. It moves with the core on a swap. -/
structure ArchState where
  /-- program counter, a word that wraps around -/
  pc : UInt64 := 0xFFFFFFF0
  instructions : Nat := 0
deriving DecidableEq, Repr

/-- The state after some more instructions of four bytes each. -/
def ArchState.retire (state : ArchState) (instructions : Nat) : ArchState :=
  { pc := state.pc + UInt64.ofNat (4 * instructions)
    instructions := state.instructions + instructions }

/-- A part of a core object, on a timeline. -/
structure Component where
  name : String
  timeline : Timeline
deriving DecidableEq, Repr

structure CoreObject where
  descriptor : CoreModel
  timeline : Timeline
  components : List Component
  /-- present while the object executes -/
  arch : Option ArchState
  /-- instructions retired while this object executed -/
  retired : Nat
deriving Repr

namespace CoreObject

def componentNames : List String :=
  ["isa", "mmu", "interrupts", "tracer"]

/-- An idle object on the shared timeline. -/
def create (descriptor : CoreModel) : CoreObject :=
  { descriptor
    timeline := .shared
    components := componentNames.map fun name => ⟨name, .shared⟩
    arch := none
    retired := 0 }

def isRunning (object : CoreObject) : Bool :=
  object.arch.isSome

def setTimeline (timeline : Timeline) (object : CoreObject) : CoreObject :=
  { object with
    timeline
    components := object.components.map fun component => { component with timeline } }

/-- Gives the object an architectural state, or takes it away. -/
def setArch (arch : Option ArchState) (object : CoreObject) : CoreObject :=
  { object with arch }

end CoreObject

/-- The kernel. The object of `model#N` stands at place `N`. -/
structure Kernel where
  seed : UInt64
  /-- the caches run a coherence protocol -/
  ruby : Bool
  objects : List CoreObject := []
  clocks : Clocks := {}
  booted : Bool := false
  hostAcceleration : Bool := false
  memMode : MemMode := .timing
  /-- number of swaps so far -/
  swaps : Nat := 0
  /-- reason with which the next swap is refused -/
  armedSwap : Option String := none
  random : Random.Stream
deriving Repr

/-- What is known of one core object from outside. -/
structure ObjectSummary where
  model : ModelId
  path : String
  timeline : Timeline
  running : Bool
  instructions : Nat
deriving DecidableEq, Repr

namespace Kernel

/-- A kernel without objects, before boot. -/
def create (seed : UInt64) (ruby : Bool) : Kernel :=
  { seed, ruby, random := .ofSeed seed }

/-! ## What can be asked -/

def object? (kernel : Kernel) (model : ModelId) : Option CoreObject :=
  kernel.objects[model.raw]?

def arch? (kernel : Kernel) (model : ModelId) : Option ArchState :=
  (kernel.object? model).bind (·.arch)

def isRunning (kernel : Kernel) (model : ModelId) : Bool :=
  (kernel.arch? model).isSome

def timeline? (kernel : Kernel) (model : ModelId) : Option Timeline :=
  (kernel.object? model).map (·.timeline)

def componentTimelines (kernel : Kernel) (model : ModelId) : List Timeline :=
  ((kernel.object? model).map fun object => object.components.map (·.timeline)).getD []

def tick (kernel : Kernel) : Nat :=
  kernel.clocks.shared

def archStates (kernel : Kernel) : List ArchState :=
  kernel.objects.filterMap (·.arch)

/-- Instructions retired by all logical cores since boot. -/
def totalInstructions (kernel : Kernel) : Nat :=
  (kernel.archStates.map (·.instructions)).foldr (· + ·) 0

/-- The models that execute, in ascending order. -/
def running (kernel : Kernel) : List ModelId :=
  (List.range kernel.objects.length).filterMap fun index =>
    if kernel.isRunning ⟨index⟩ then some ⟨index⟩ else none

def path (model : ModelId) (object : CoreObject) : String :=
  "board.cores." ++ object.descriptor.name ++ toString model.raw

/-- All objects from outside, in ascending order of their models. -/
def summaries (kernel : Kernel) : List ObjectSummary :=
  kernel.objects.zipIdx.map fun (object, index) =>
    { model := ⟨index⟩
      path := path ⟨index⟩ object
      timeline := object.timeline
      running := object.isRunning
      instructions := object.retired }

/-! ## Changes -/

def modifyObject (model : ModelId) (f : CoreObject → CoreObject) (kernel : Kernel) : Kernel :=
  { kernel with objects := kernel.objects.modify model.raw f }

/-- Registers a core object, idle and on the shared timeline. -/
def instantiate (descriptor : CoreModel) (kernel : Kernel) : ModelId × Kernel :=
  (⟨kernel.objects.length⟩, { kernel with objects := kernel.objects ++ [.create descriptor] })

/-- What keeps a model from beginning to execute. -/
def startError? (kernel : Kernel) (model : ModelId) : Option BoardError :=
  match kernel.object? model with
  | none => some (.unknownModel model)
  | some object => if object.isRunning then some (.alreadyRunning model) else none

/-- Starts models from reset. A machine boots once. -/
def boot (active : List ModelId) (kernel : Kernel) : Answer Kernel :=
  if kernel.booted then (.error .alreadyBooted, kernel)
  else
    match active.findSome? kernel.startError? with
    | some error => (.error error, kernel)
    | none =>
      let started := active.foldl
        (fun kernel model => kernel.modifyObject model (·.setArch (some {}))) kernel
      (.ok (), { started with booted := true })

/-- Another model on a timeline, the one with the least number. -/
def owner? (kernel : Kernel) (model : ModelId) (timeline : Timeline) : Option ModelId :=
  (List.range kernel.objects.length).findSome? fun index =>
    if (⟨index⟩ : ModelId) ≠ model ∧ kernel.timeline? ⟨index⟩ = some timeline then some ⟨index⟩
    else none

/-- Puts a model and its parts on a timeline. An isolated timeline serves one model at a time. -/
def assignTimeline (model : ModelId) (timeline : Timeline) (kernel : Kernel) : Answer Kernel :=
  match kernel.object? model with
  | none => (.error (.unknownModel model), kernel)
  | some _ =>
    match if timeline.isShared then none else kernel.owner? model timeline with
    | some owner => (.error (.timelineInUse timeline owner), kernel)
    | none =>
      (.ok (), { kernel.modifyObject model (·.setTimeline timeline) with
        clocks := kernel.clocks.ensure timeline })

/-- Serializes all timelines. -/
def synchronize (kernel : Kernel) : Nat × Kernel :=
  (kernel.clocks.horizon, { kernel with clocks := kernel.clocks.synchronize })

def failNextSwap (reason : String) (kernel : Kernel) : Kernel :=
  { kernel with armedSwap := some reason }

/-! ## Swaps -/

/-- What keeps one model from handing over to another. -/
def handOverError? (kernel : Kernel) (outgoing incoming : ModelId) : Option BoardError :=
  match kernel.object? outgoing with
  | none => some (.unknownModel outgoing)
  | some object =>
    if !object.isRunning then some (.notRunning outgoing)
    else kernel.startError? incoming

/-- What keeps a list of pairs from being swapped, where the models in `seen` came in earlier
pairs. -/
def swapError? (kernel : Kernel) (seen : List ModelId) :
    List (ModelId × ModelId) → Option BoardError
  | [] => none
  | (outgoing, incoming) :: rest =>
    if outgoing ∈ seen then some (.duplicateModel outgoing)
    else if incoming ∈ outgoing :: seen then some (.duplicateModel incoming)
    else
      match kernel.handOverError? outgoing incoming with
      | some error => some error
      | none => kernel.swapError? (incoming :: outgoing :: seen) rest

/-- Moves the architectural state of one model to another. -/
def handOver (kernel : Kernel) (pair : ModelId × ModelId) : Kernel :=
  let arch := kernel.arch? pair.1
  (kernel.modifyObject pair.1 (·.setArch none)).modifyObject pair.2 (·.setArch arch)

/-- Serializes the timelines and moves every architectural state to its new model. -/
def exchange (pairs : List (ModelId × ModelId)) (kernel : Kernel) : Kernel :=
  let moved := pairs.foldl handOver kernel.synchronize.2
  { moved with swaps := kernel.swaps + 1 }

/-- Swaps models. An armed refusal answers the request and is gone. -/
def swap (pairs : List (ModelId × ModelId)) (kernel : Kernel) : Answer Kernel :=
  match kernel.armedSwap with
  | some reason => (.error (.swapFailed reason), { kernel with armedSwap := none })
  | none =>
    if !kernel.booted then (.error .notBooted, kernel)
    else
      match kernel.swapError? [] pairs with
      | some error => (.error error, kernel)
      | none => (.ok (), kernel.exchange pairs)

instance : Board Kernel where
  swap := swap
  assignTimeline := assignTimeline
  enableHostAcceleration kernel := (.ok (), { kernel with hostAcceleration := true })
  usesRuby kernel := kernel.ruby
  setMemMode memMode kernel := { kernel with memMode }

/-! ## Time does not go back -/

@[simp] theorem tick_modifyObject (model : ModelId) (f : CoreObject → CoreObject)
    (kernel : Kernel) : (kernel.modifyObject model f).tick = kernel.tick := rfl

@[simp] theorem clocks_foldl_handOver (pairs : List (ModelId × ModelId)) (kernel : Kernel) :
    (pairs.foldl Kernel.handOver kernel).clocks = kernel.clocks := by
  induction pairs generalizing kernel with
  | nil => rfl
  | cons pair rest ih => exact ih _

theorem tick_le_synchronize (kernel : Kernel) : kernel.tick ≤ kernel.synchronize.2.tick :=
  kernel.clocks.shared_le_horizon

theorem tick_le_swap (pairs : List (ModelId × ModelId)) (kernel : Kernel) :
    kernel.tick ≤ (kernel.swap pairs).2.tick := by
  unfold Kernel.swap
  split
  · exact Nat.le_refl _
  · split
    · exact Nat.le_refl _
    · split
      · exact Nat.le_refl _
      · simpa [Kernel.exchange, Kernel.tick] using kernel.tick_le_synchronize

end Kernel

end Polycore
