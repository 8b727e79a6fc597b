import Polycore.Proofs.Kernel.Quantum
import Polycore.Proofs.Kernel.Swap

/-!
# Requests to the kernel

Everything that can be asked of a kernel from outside is a `Request`, and a kernel is reachable if
some sequence of requests leads to it from a new one (`ReachableBy`). The books of a reachable
kernel balance (`Books`): the running architectural states count exactly the instructions that the
objects retired, every program counter stands where its count puts it, and nothing runs before boot.
-/

namespace Polycore

/-- The program counter stands four bytes for every instruction past the reset vector, as a word. -/
def ArchState.Counted (state : ArchState) : Prop :=
  state.pc.toNat = (0xFFFFFFF0 + 4 * state.instructions) % 2 ^ 64

theorem ArchState.counted_reset : ArchState.Counted {} := rfl

theorem ArchState.Counted.retire {state : ArchState} (h : state.Counted) (instructions : Nat) :
    (state.retire instructions).Counted := by
  simp only [Counted, ArchState.retire] at h ⊢
  rw [UInt64.toNat_add, UInt64.toNat_ofNat', h]
  omega

namespace Kernel

/-- What can be asked of a kernel. -/
inductive Request where
  | instantiate (descriptor : CoreModel)
  | boot (active : List ModelId)
  | assignTimeline (model : ModelId) (timeline : Timeline)
  | swap (pairs : List (ModelId × ModelId))
  | runQuantum (ticks : Nat) (fpFraction : Float)
  | synchronize
  | failNextSwap (reason : String)
  | enableHostAcceleration
  | setMemMode (memMode : MemMode)

namespace Request

/-- Asks for models to be swapped directly. -/
def isSwap : Request → Bool
  | swap _ => true
  | _ => false

/-- Asks for time to be simulated. -/
def isQuantum : Request → Bool
  | runQuantum .. => true
  | _ => false

/-- Asks for nothing that starts, stops or advances a model. -/
def isQuiet : Request → Bool
  | boot _ => false
  | swap _ => false
  | runQuantum .. => false
  | _ => true

end Request

/-- The kernel after a request, granted or refused. -/
def perform (kernel : Kernel) : Request → Kernel
  | .instantiate descriptor => (kernel.instantiate descriptor).2
  | .boot active => (kernel.boot active).2
  | .assignTimeline model timeline => (kernel.assignTimeline model timeline).2
  | .swap pairs => (kernel.swap pairs).2
  | .runQuantum ticks fpFraction => (kernel.runQuantum ticks fpFraction).2
  | .synchronize => kernel.synchronize.2
  | .failNextSwap reason => kernel.failNextSwap reason
  | .enableHostAcceleration => (Board.enableHostAcceleration kernel).2
  | .setMemMode memMode => Board.setMemMode memMode kernel

/-- The kernels to which a sequence of allowed requests leads, granted or refused. -/
inductive ReachableBy (allowed : Request → Prop) : Kernel → Prop where
  | create (seed : UInt64) (ruby : Bool) : ReachableBy allowed (.create seed ruby)
  | perform {kernel : Kernel} (request : Request) (permitted : allowed request) :
    ReachableBy allowed kernel → ReachableBy allowed (kernel.perform request)

/-- The kernels to which any sequence of requests leads. -/
abbrev Reachable (kernel : Kernel) : Prop :=
  ReachableBy (fun _ => True) kernel

/-- The kernels that have simulated no time yet. -/
abbrev Fresh (kernel : Kernel) : Prop :=
  ReachableBy (fun request => request.isQuantum = false) kernel

theorem Fresh.reachable {kernel : Kernel} (h : kernel.Fresh) : kernel.Reachable := by
  induction h with
  | create seed ruby => exact .create seed ruby
  | perform request _ _ ih => exact .perform request trivial ih

/-- A kernel with two atomic models. -/
def duo : Kernel :=
  ((Kernel.create 0 false).perform (.instantiate .dummy)).perform (.instantiate .dummy)

theorem fresh_duo : duo.Fresh :=
  .perform (.instantiate .dummy) rfl (.perform (.instantiate .dummy) rfl (.create 0 false))

/-- Neither model is on an isolated timeline. -/
theorem isShared_timeline?_duo {model : ModelId} {timeline : Timeline}
    (h : duo.timeline? model = some timeline) : timeline.isShared = true := by
  match model with
  | ⟨0⟩ | ⟨1⟩ =>
    cases h
    rfl
  | ⟨_ + 2⟩ => cases h

/-- A kernel with four atomic models. -/
def quad : Kernel :=
  (duo.perform (.instantiate .dummy)).perform (.instantiate .dummy)

theorem fresh_quad : quad.Fresh :=
  .perform (.instantiate .dummy) rfl (.perform (.instantiate .dummy) rfl fresh_duo)

variable {kernel : Kernel} {model : ModelId}

theorem sameWork_perform (kernel : Kernel) {request : Request} (quiet : request.isQuiet = true) :
    SameWork kernel (kernel.perform request) := by
  cases request with
  | boot | swap | runQuantum => cases quiet
  | instantiate descriptor => exact .instantiate kernel descriptor
  | assignTimeline model timeline => exact .assignTimeline kernel model timeline
  | synchronize | failNextSwap | enableHostAcceleration | setMemMode => exact .of_objects rfl rfl

/-! ## Boot -/

theorem mem_archStates {state : ArchState} :
    state ∈ kernel.archStates ↔ ∃ model, kernel.arch? model = some state := by
  rw [archStates, List.mem_filterMap]
  constructor
  · rintro ⟨object, mem, h⟩
    obtain ⟨place, hplace⟩ := List.getElem?_of_mem mem
    exact ⟨⟨place⟩, arch?_eq_some_iff.mpr ⟨object, hplace, h⟩⟩
  · rintro ⟨model, h⟩
    obtain ⟨object, hobject, harch⟩ := arch?_eq_some_iff.mp h
    exact ⟨object, List.mem_of_getElem? hobject, harch⟩

/-- Gives each of some models the reset state. -/
def startAll (active : List ModelId) (kernel : Kernel) : Kernel :=
  active.foldl (fun kernel model => kernel.modifyObject model (·.setArch (some {}))) kernel

theorem body?_startAll (active : List ModelId) (kernel : Kernel) (model : ModelId) :
    (kernel.startAll active).body? model = kernel.body? model :=
  view_foldl (·.body? model) (fun kernel first => body?_modifyObject_setArch kernel first model _)
    active kernel

theorem retired_startAll (active : List ModelId) (kernel : Kernel) (model : ModelId) :
    (kernel.startAll active).retired model = kernel.retired model := by
  rw [retired_eq_body?, body?_startAll, retired_eq_body?]

theorem totalRetired_startAll (active : List ModelId) (kernel : Kernel) :
    (kernel.startAll active).totalRetired = kernel.totalRetired := by
  refine view_foldl (·.totalRetired) (fun kernel first => congrArg List.sum ?_) active kernel
  exact map_objects_modifyObject (·.retired) (·.setArch (some {})) (fun _ => rfl) kernel first

theorem arch?_startAll_of_not_mem {active : List ModelId} (h : model ∉ active) (kernel : Kernel) :
    (kernel.startAll active).arch? model = kernel.arch? model := by
  induction active generalizing kernel with
  | nil => rfl
  | cons first rest ih =>
    rw [List.mem_cons, not_or] at h
    exact (ih h.2 _).trans (arch?_modifyObject_of_ne _ h.1)

theorem arch?_startAll_of_mem {active : List ModelId} (mem : model ∈ active)
    (registered : (kernel.object? model).isSome = true) :
    (kernel.startAll active).arch? model = some {} := by
  induction active generalizing kernel with
  | nil => cases mem
  | cons first rest ih =>
    have started :
        ((kernel.modifyObject first (·.setArch (some {}))).object? model).isSome = true := by
      rw [← isSome_body?, body?_modifyObject_setArch, isSome_body?]
      exact registered
    by_cases later : model ∈ rest
    · exact ih later started
    · obtain rfl := (List.mem_cons.mp mem).resolve_right later
      obtain ⟨object, hobject⟩ := Option.isSome_iff_exists.mp registered
      refine (arch?_startAll_of_not_mem later _).trans ?_
      rw [arch?_modifyObject_self _ hobject]
      rfl

/-- A boot is refused without a trace, or starts registered and idle models on an idle machine. -/
theorem boot_cases (kernel : Kernel) (active : List ModelId) :
    (∃ error, kernel.boot active = (.error error, kernel)) ∨
    (kernel.booted = false ∧ (∀ model ∈ active, (kernel.object? model).isSome = true) ∧
      kernel.boot active = (.ok (), { kernel.startAll active with booted := true })) := by
  unfold boot
  split
  · exact .inl ⟨_, rfl⟩
  · next unbooted =>
    split
    · next error _ => exact .inl ⟨error, rfl⟩
    · next free =>
      refine .inr ⟨by simpa using unbooted, fun model mem => ?_, rfl⟩
      exact (startError?_eq_none_iff.mp (List.findSome?_eq_none_iff.mp free model mem)).1

/-! ## The books -/

/-- What the books of a kernel say: all that runs was retired by some object, every program counter
fits its count, and nothing runs before boot. -/
structure Books (kernel : Kernel) : Prop where
  conserved : kernel.totalInstructions = kernel.totalRetired
  counted : ∀ state ∈ kernel.archStates, state.Counted
  idle : kernel.booted = false → kernel.archStates = []

namespace Books

theorem create (seed : UInt64) (ruby : Bool) : Books (.create seed ruby) :=
  ⟨rfl, nofun, fun _ => rfl⟩

theorem of_sameWork {next : Kernel} (same : SameWork kernel next) (h : Books kernel) :
    Books next where
  conserved := by rw [same.totalInstructions, same.totalRetired, h.conserved]
  counted := by
    rw [same.archStates]
    exact h.counted
  idle := by
    rw [same.booted, same.archStates]
    exact h.idle

theorem not_running (h : Books kernel) (unbooted : kernel.booted = false) (model : ModelId) :
    kernel.arch? model = none := by
  by_contra running
  obtain ⟨state, hstate⟩ := Option.ne_none_iff_exists'.mp running
  have mem := mem_archStates.mpr ⟨model, hstate⟩
  rw [h.idle unbooted] at mem
  cases mem

theorem counted_of_arch? (h : Books kernel) {state : ArchState}
    (harch : kernel.arch? model = some state) : state.Counted :=
  h.counted state (mem_archStates.mpr ⟨model, harch⟩)

/-- Before boot no object has retired anything. -/
theorem totalRetired_eq_zero (h : Books kernel) (unbooted : kernel.booted = false) :
    kernel.totalRetired = 0 := by
  rw [← h.conserved, totalInstructions_eq, h.idle unbooted]
  rfl

theorem retired_eq_zero (h : Books kernel) (unbooted : kernel.booted = false) (model : ModelId) :
    kernel.retired model = 0 := by
  have nothing := List.sum_eq_zero_iff_forall_eq_nat.mp (h.totalRetired_eq_zero unbooted)
  rw [retired]
  cases found : kernel.object? model with
  | none => rfl
  | some object => exact nothing _ (List.mem_map_of_mem (List.mem_of_getElem? found))

theorem retire (h : Books kernel) (runs : kernel.isRunning model = true) (instructions : Nat) :
    Books (kernel.retire model instructions) where
  conserved := by rw [totalInstructions_retire runs, totalRetired_retire runs, h.conserved]
  counted := by
    intro state mem
    obtain ⟨other, hstate⟩ := mem_archStates.mp mem
    by_cases same : other = model
    · rw [same, arch?_retire_self] at hstate
      obtain ⟨before, hbefore, rfl⟩ := Option.map_eq_some_iff.mp hstate
      exact (h.counted_of_arch? hbefore).retire instructions
    · rw [arch?_retire_of_ne _ same] at hstate
      exact h.counted_of_arch? hstate
  idle := by
    intro unbooted
    rw [isRunning, h.not_running unbooted] at runs
    cases runs

theorem runQuantum (h : Books kernel) (ticks : Nat) (fpFraction : Float) :
    Books (kernel.runQuantum ticks fpFraction).2 :=
  runQuantum_keeps of_sameWork (fun instructions runs h => h.retire runs instructions) h

theorem swap (h : Books kernel) (pairs : List (ModelId × ModelId)) :
    Books (kernel.swap pairs).2 where
  conserved := by rw [totalInstructions_swap, totalRetired_swap, h.conserved]
  counted := by
    intro state mem
    exact h.counted state ((kernel.archStates_swap_perm pairs).subset mem)
  idle := by
    intro unbooted
    rw [booted_swap] at unbooted
    have perm := kernel.archStates_swap_perm pairs
    rwa [h.idle unbooted, List.perm_nil] at perm

theorem boot (h : Books kernel) (active : List ModelId) : Books (kernel.boot active).2 := by
  rcases kernel.boot_cases active with ⟨error, hboot⟩ | ⟨unbooted, registered, hboot⟩
  · rw [hboot]
    exact h
  · rw [hboot]
    have reset : ∀ state ∈ (kernel.startAll active).archStates, state = {} := by
      intro state mem
      obtain ⟨model, hstate⟩ := mem_archStates.mp mem
      by_cases started : model ∈ active
      · rw [arch?_startAll_of_mem started (registered model started)] at hstate
        exact (Option.some.inj hstate).symm
      · rw [arch?_startAll_of_not_mem started, h.not_running unbooted] at hstate
        cases hstate
    refine ⟨?_, fun state mem => ?_, nofun⟩
    · have retired : (kernel.startAll active).totalRetired = 0 := by
        rw [totalRetired_startAll, h.totalRetired_eq_zero unbooted]
      refine Eq.trans (List.sum_eq_zero ?_) retired.symm
      intro count mem
      obtain ⟨state, hstate, rfl⟩ := List.mem_map.mp mem
      rw [reset state hstate]
    · rw [reset state mem]
      exact ArchState.counted_reset

theorem perform (h : Books kernel) (request : Request) : Books (kernel.perform request) := by
  cases request with
  | boot active => exact h.boot active
  | swap pairs => exact h.swap pairs
  | runQuantum ticks fpFraction => exact h.runQuantum ticks fpFraction
  | _ => exact h.of_sameWork (kernel.sameWork_perform rfl)

end Books

/-- The books of every reachable kernel balance. -/
theorem ReachableBy.books {allowed : Request → Prop} (h : ReachableBy allowed kernel) :
    Books kernel := by
  induction h with
  | create seed ruby => exact .create seed ruby
  | perform request _ _ ih => exact ih.perform request

end Kernel

end Polycore
