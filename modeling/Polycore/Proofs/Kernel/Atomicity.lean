import Mathlib.Data.List.Induction
import Polycore.Proofs.Kernel.Armed

/-!
# All or nothing

A kernel grants a request as a whole or refuses it without a trace. Only an armed refusal shows
afterwards, by being gone, and it answers the first swap after it was armed and no other
(`Kernel.armedSwap_eq_some_iff`). The main statement is `whole_or_without_a_trace`.
-/

namespace Polycore.Kernel

variable {kernel after : Kernel} {model : ModelId} {reason : String} {error : BoardError}

/-! ## What a swap is refused for -/

theorem startError?_ne_swapFailed (kernel : Kernel) (model : ModelId) (reason : String) :
    kernel.startError? model ≠ some (.swapFailed reason) := by
  unfold startError?
  split
  · simp
  · split <;> simp

theorem handOverError?_ne_swapFailed (kernel : Kernel) (outgoing incoming : ModelId)
    (reason : String) : kernel.handOverError? outgoing incoming ≠ some (.swapFailed reason) := by
  unfold handOverError?
  split
  · simp
  · split
    · simp
    · exact kernel.startError?_ne_swapFailed incoming reason

/-- No pair is at fault for a swap that fails by itself. -/
theorem swapError?_ne_swapFailed (kernel : Kernel) (seen : List ModelId)
    (pairs : List (ModelId × ModelId)) (reason : String) :
    kernel.swapError? seen pairs ≠ some (.swapFailed reason) := by
  induction pairs generalizing seen with
  | nil => simp [swapError?]
  | cons pair rest ih =>
    rw [swapError?]
    split
    · simp
    · split
      · simp
      · split
        · next fault => exact fault ▸ kernel.handOverError?_ne_swapFailed pair.1 pair.2 reason
        · exact ih _

/-- A swap fails by itself exactly if that was armed. -/
theorem swap_eq_swapFailed_iff {pairs : List (ModelId × ModelId)} :
    (kernel.swap pairs).1 = .error (.swapFailed reason) ↔ kernel.armedSwap = some reason := by
  unfold swap
  split
  · next armed => simp [armed]
  · next unarmed =>
    rw [unarmed]
    refine iff_of_false ?_ nofun
    split
    · simp
    · split
      · next fault =>
        have other := kernel.swapError?_ne_swapFailed [] pairs reason
        simpa [fault] using other
      · simp

theorem armedSwap_swap (kernel : Kernel) (pairs : List (ModelId × ModelId)) :
    (kernel.swap pairs).2.armedSwap = none := by
  rcases kernel.swap_cases pairs with ⟨_, _, h⟩ | ⟨_, unarmed, h⟩ | ⟨unarmed, _, _, h⟩
  · rw [h]
  · rw [h]
    exact unarmed
  · rw [h]
    exact (armedSwap_exchange pairs kernel).trans unarmed

/-! ## What is armed -/

/-- Asks for a swap, or for the next one to be refused. -/
def Request.concernsArmed (request : Request) : Bool :=
  request.isSwap || request.isArming

/-- What a request leaves armed goes by the request alone, or by what was armed before. -/
theorem armedSwap_perform_eq_some_iff (request : Request) :
    (kernel.perform request).armedSwap = some reason ↔
      request = .failNextSwap reason ∨
        request.concernsArmed = false ∧ kernel.armedSwap = some reason := by
  cases concern : request.concernsArmed with
  | false =>
    obtain ⟨indirect, unarming⟩ := Bool.or_eq_false_iff.mp concern
    have kept : (kernel.perform request).armedSwap = kernel.armedSwap :=
      congrArg Prod.fst (kernel.swapRecord_perform request indirect unarming)
    have other : request ≠ .failNextSwap reason := by
      rintro rfl
      cases unarming
    simp [other, kept]
  | true =>
    cases request with
    | swap pairs => simp [perform, armedSwap_swap]
    | failNextSwap armed => simp [perform, failNextSwap]
    | _ => cases concern

/-- After any requests to a new kernel a refusal is armed exactly if it was armed since the last
swap, and last. -/
theorem armedSwap_eq_some_iff (seed : UInt64) (ruby : Bool) (requests : List Request) :
    (requests.foldl perform (create seed ruby)).armedSwap = some reason ↔
      ∃ before since, requests = before ++ .failNextSwap reason :: since ∧
        ∀ request ∈ since, request.concernsArmed = false := by
  induction requests using List.reverseRecOn with
  | nil => simp [create]
  | append_singleton requests last ih =>
    rw [List.foldl_append, List.foldl_cons, List.foldl_nil, armedSwap_perform_eq_some_iff, ih]
    constructor
    · rintro (rfl | ⟨unconcerned, before, since, rfl, others⟩)
      · exact ⟨requests, [], rfl, nofun⟩
      · refine ⟨before, since ++ [last], by simp, ?_⟩
        exact List.forall_mem_append.mpr ⟨others, List.forall_mem_singleton.mpr unconcerned⟩
    · rintro ⟨before, since, same, others⟩
      rcases List.eq_nil_or_concat' since with rfl | ⟨front, final, rfl⟩
      · exact .inl (List.singleton_inj.mp (List.append_inj_right' same rfl))
      · rw [← List.cons_append, ← List.append_assoc] at same
        obtain ⟨rfl, only⟩ := List.append_inj' same rfl
        obtain rfl := List.singleton_inj.mp only
        obtain ⟨others, unconcerned⟩ := List.forall_mem_append.mp others
        exact .inr ⟨unconcerned last (List.mem_singleton_self last), before, front, rfl, others⟩

/-! ## Whole or without a trace -/

theorem arch?_of_boot_eq_ok {active : List ModelId} (h : kernel.boot active = (.ok (), after))
    (mem : model ∈ active) : after.arch? model = some {} := by
  rcases kernel.boot_cases active with ⟨_, refused⟩ | ⟨-, registered, granted⟩
  · cases h.symm.trans refused
  · cases h.symm.trans granted
    exact arch?_startAll_of_mem mem (registered model mem)

theorem timelines_of_assignTimeline_eq_ok {timeline : Timeline}
    (h : kernel.assignTimeline model timeline = (.ok (), after)) :
    after.timeline? model = some timeline ∧
      ∀ other ∈ after.componentTimelines model, other = timeline := by
  refine ⟨by rw [timeline?_of_assignTimeline_eq_ok h, if_pos rfl], ?_⟩
  rcases kernel.assignTimeline_cases model timeline with ⟨_, refused⟩ | ⟨registered, -, granted⟩
  · cases h.symm.trans refused
  · cases h.symm.trans granted
    obtain ⟨object, found⟩ := Option.isSome_iff_exists.mp registered
    have moved : (kernel.modifyObject model (·.setTimeline timeline)).componentTimelines model =
        object.components.map fun _ => timeline := by
      rw [componentTimelines, object?_modifyObject_self, found]
      simp [CoreObject.setTimeline, Function.comp_def]
    intro other mem
    obtain ⟨_, -, same⟩ := List.mem_map.mp (moved ▸ mem)
    exact same.symm

/-- Whatever was asked of a kernel before, a boot, an assignment and a swap are granted for all that
they name, or refused without a trace. A swap that fails by itself takes along the refusal that was
armed, and nothing else; it meets one exactly if one was armed since the last swap, and then the one
armed last. -/
theorem whole_or_without_a_trace (seed : UInt64) (ruby : Bool) (requests : List Request) :
    let kernel := requests.foldl perform (create seed ruby)
    (∀ active after, kernel.boot active = (.ok (), after) →
      ∀ model ∈ active, after.arch? model = some {}) ∧
    (∀ active error after, kernel.boot active = (.error error, after) → after = kernel) ∧
    (∀ model timeline after, kernel.assignTimeline model timeline = (.ok (), after) →
      after.timeline? model = some timeline ∧
        ∀ other ∈ after.componentTimelines model, other = timeline) ∧
    (∀ model timeline error after, kernel.assignTimeline model timeline = (.error error, after) →
      after = kernel) ∧
    (∀ pairs after, kernel.swap pairs = (.ok (), after) → ∀ pair ∈ pairs,
      after.arch? pair.1 = none ∧ after.arch? pair.2 = kernel.arch? pair.1) ∧
    (∀ pairs error after, kernel.swap pairs = (.error error, after) →
      (∃ reason, error = .swapFailed reason ∧ kernel.armedSwap = some reason ∧
        after = { kernel with armedSwap := none }) ∨
      (∀ reason, error ≠ .swapFailed reason) ∧ after = kernel) ∧
    ∀ pairs reason, (kernel.swap pairs).1 = .error (.swapFailed reason) ↔
      ∃ before since, requests = before ++ .failNextSwap reason :: since ∧
        ∀ request ∈ since, request.isSwap = false ∧ request.isArming = false := by
  intro kernel
  refine ⟨?_, ?_, ?_, ?_, ?_, ?_, ?_⟩
  · exact fun active after h model => arch?_of_boot_eq_ok h
  · intro active error after h
    rcases kernel.boot_cases active with ⟨_, refused⟩ | ⟨-, -, granted⟩
    · cases h.symm.trans refused
      rfl
    · cases h.symm.trans granted
  · exact fun model timeline after => timelines_of_assignTimeline_eq_ok
  · intro model timeline error after h
    rcases kernel.assignTimeline_cases model timeline with ⟨_, refused⟩ | ⟨-, -, granted⟩
    · cases h.symm.trans refused
      rfl
    · cases h.symm.trans granted
  · intro pairs after h pair mem
    obtain ⟨ok, rfl⟩ := exchange_of_swap_eq_ok h
    exact ⟨arch?_exchange_outgoing ok mem, arch?_exchange_incoming ok mem⟩
  · intro pairs error after h
    rcases kernel.swap_cases pairs with ⟨reason, armed, failed⟩ | ⟨_, unarmed, refused⟩ |
      ⟨_, _, _, granted⟩
    · cases h.symm.trans failed
      exact .inl ⟨reason, rfl, armed, rfl⟩
    · cases h.symm.trans refused
      refine .inr ⟨?_, rfl⟩
      rintro reason rfl
      have armed := swap_eq_swapFailed_iff.mp (congrArg Prod.fst h)
      cases unarmed.symm.trans armed
    · cases h.symm.trans granted
  · intro pairs reason
    rw [swap_eq_swapFailed_iff, armedSwap_eq_some_iff]
    simp only [Request.concernsArmed, Bool.or_eq_false_iff]

end Polycore.Kernel
