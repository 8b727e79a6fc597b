import Polycore.Proofs.Session.Granted

/-!
# Isolation

A machine that joins a kernel has its accelerated cores put on timelines of their own, and all other
cores stay on the shared one (`Kernel.serves_of_bindAccelerated`). Nothing but an assignment from
outside moves a model afterwards (`Kernel.timeline?_perform`), and the processor knows where each of
them stands (`Session.Placed`). The main statement is `Session.isolated_for_good`.
-/

namespace Polycore

/-! ## Kernels -/

namespace Kernel

variable {kernel next : Kernel} {model : ModelId} {timeline : Timeline}
  {bindings : List (ModelId × Timeline)} {models : List ModelId}

/-- Asks for an object to be put on a timeline. -/
def Request.isAssignment : Request → Bool
  | assignTimeline .. => true
  | _ => false

/-- Models are put on a timeline by assignments alone; a new one begins on the shared timeline. -/
theorem timeline?_perform (kernel : Kernel) {request : Request} (h : request.isAssignment = false)
    (model : ModelId) :
    (kernel.perform request).timeline? model = kernel.timeline? model ∨
      kernel.timeline? model = none ∧ (kernel.perform request).timeline? model = some .shared := by
  cases placing : request.isPlacing with
  | false =>
    left
    rw [timeline?_eq_places, places_perform kernel placing, timeline?_eq_places]
  | true =>
    cases request with
    | instantiate descriptor => exact kernel.timeline?_instantiate_cases descriptor model
    | assignTimeline => cases h
    | _ => cases placing

/-- A host that is prepared for accelerated models stays so. -/
theorem hostAcceleration_perform (h : kernel.hostAcceleration = true) (request : Request) :
    (kernel.perform request).hostAcceleration = true := by
  cases request with
  | boot active =>
    rw [perform]
    rcases kernel.boot_cases active with ⟨_, refused⟩ | ⟨-, -, granted⟩
    · rw [refused]
      exact h
    · rw [granted]
      refine (view_foldl (·.hostAcceleration) (fun _ _ => ?_) active kernel).trans h
      rfl
  | assignTimeline model timeline =>
    rw [perform]
    rcases kernel.assignTimeline_cases model timeline with ⟨_, refused⟩ | ⟨-, -, granted⟩
    · rw [refused]
      exact h
    · rw [granted]
      exact h
  | swap pairs =>
    rw [perform]
    rcases kernel.swap_cases pairs with ⟨_, _, failed⟩ | ⟨_, _, refused⟩ | ⟨_, _, _, granted⟩
    · rw [failed]
      exact h
    · rw [refused]
      exact h
    · rw [granted]
      refine (view_foldl (·.hostAcceleration) (fun _ _ => ?_) pairs kernel.synchronize.2).trans h
      rfl
  | runQuantum ticks fpFraction =>
    refine runModels_of_runModel (P := fun next => next.hostAcceleration = true) ?_ _ h
    intro next model prepared
    unfold runModel
    split
    · exact prepared
    · exact prepared
  | enableHostAcceleration => rfl
  | instantiate | synchronize | failNextSwap | setMemMode => exact h

/-! ## Bindings -/

/-- Models that are put on timelines one after the other stand there, and all others where they
stood. -/
theorem timeline?_of_assignAll (distinct : (bindings.map (·.1)).Nodup)
    (h : Processor.assignAll bindings kernel = (.ok (), next)) :
    (∀ binding ∈ bindings, next.timeline? binding.1 = some binding.2) ∧
      ∀ model ∉ bindings.map (·.1), next.timeline? model = kernel.timeline? model := by
  induction bindings generalizing kernel with
  | nil =>
    cases h
    exact ⟨nofun, fun _ _ => rfl⟩
  | cons binding rest ih =>
    obtain ⟨fresh, distinct⟩ := List.nodup_cons.mp distinct
    rw [Processor.assignAll] at h
    split at h
    · cases h
    · next assigned granted =>
      obtain ⟨bound, others⟩ := ih distinct h
      have moved := timeline?_of_assignTimeline_eq_ok granted
      constructor
      · refine List.forall_mem_cons.mpr ⟨?_, bound⟩
        rw [others _ fresh, moved, if_pos rfl]
      · intro model unlisted
        obtain ⟨other, unlisted⟩ := not_or.mp (List.mem_cons.not.mp unlisted)
        rw [others model unlisted, moved, if_neg other]

theorem hostAcceleration_assignAll (bindings : List (ModelId × Timeline))
    (h : kernel.hostAcceleration = true) :
    (Processor.assignAll bindings kernel).2.hostAcceleration = true :=
  Processor.assignAll_keeps (P := fun kernel : Kernel => kernel.hostAcceleration = true)
    (fun model timeline h => hostAcceleration_perform h (.assignTimeline model timeline)) h

/-- A kernel has the bound ones of some models where their bindings say and the others, as far as it
has them, on the shared timeline. -/
structure Serves (kernel : Kernel) (bindings : List (ModelId × Timeline))
    (models : List ModelId) : Prop where
  bound : ∀ binding ∈ bindings, kernel.timeline? binding.1 = some binding.2
  shared : ∀ model ∈ models, model ∉ bindings.map (·.1) →
    ∀ timeline, kernel.timeline? model = some timeline → timeline = .shared
  host : bindings ≠ [] → kernel.hostAcceleration = true

theorem Serves.perform (h : kernel.Serves bindings models) {request : Request}
    (unassigned : request.isAssignment = false) :
    (kernel.perform request).Serves bindings models where
  bound binding mem := by
    have stands := h.bound binding mem
    rcases kernel.timeline?_perform unassigned binding.1 with same | ⟨unknown, -⟩
    · exact same.trans stands
    · cases unknown.symm.trans stands
  shared model mem unbound timeline found := by
    rcases kernel.timeline?_perform unassigned model with same | ⟨-, new⟩
    · exact h.shared model mem unbound timeline (same.symm.trans found)
    · exact (Option.some.inj (new.symm.trans found)).symm
  host bound := hostAcceleration_perform (h.host bound) request

theorem serves_of_bindAccelerated (distinct : (bindings.map (·.1)).Nodup)
    (shared : ∀ model ∈ models, ∀ timeline, kernel.timeline? model = some timeline →
      timeline = .shared)
    (h : Processor.bindAccelerated bindings kernel = (.ok (), next)) :
    next.Serves bindings models := by
  unfold Processor.bindAccelerated at h
  split at h
  · next empty =>
    cases h
    obtain rfl := List.isEmpty_iff.mp empty
    exact ⟨nofun, fun model mem _ => shared model mem, fun bound => absurd rfl bound⟩
  · let prepared : Kernel := { kernel with hostAcceleration := true }
    have assigned : Processor.assignAll bindings prepared = (.ok (), next) := h
    obtain ⟨bound, others⟩ := timeline?_of_assignAll distinct assigned
    refine ⟨bound, fun model mem unbound => ?_, fun _ => ?_⟩
    · rw [others model unbound]
      exact shared model mem
    · have kept : (Processor.assignAll bindings prepared).2.hostAcceleration = true :=
        hostAcceleration_assignAll bindings rfl
      rw [assigned] at kept
      exact kept

namespace Serves

theorem map_timeline? (h : kernel.Serves bindings models) :
    (bindings.map (·.1)).map kernel.timeline? = (bindings.map (·.2)).map some := by
  rw [List.map_map, List.map_map]
  exact List.map_congr_left h.bound

theorem timeline?_eq (h : kernel.Serves bindings models) (distinct : (bindings.map (·.1)).Nodup)
    (mem : model ∈ models) (found : kernel.timeline? model = some timeline) :
    timeline = (bindings.lookup model).getD .shared := by
  by_cases bound : model ∈ bindings.map (·.1)
  · obtain ⟨binding, hbinding, rfl⟩ := List.mem_map.mp bound
    rw [lookup_of_mem distinct hbinding]
    exact Option.some.inj (found.symm.trans (h.bound binding hbinding))
  · rw [lookup_eq_none_of_not_mem bound]
    exact h.shared model mem bound timeline found

end Serves

end Kernel

/-! ## Sessions -/

namespace Session

variable {session : Session} {bindings : List (ModelId × Timeline)} {models : List ModelId}

/-- Asks the kernel past the machine for an object to be put on a timeline. -/
def Request.isAssignment : Request → Bool
  | .kernel request _ => request.isAssignment
  | _ => false

/-- The models of a machine stand where its bindings say, as the processor and the kernel see it. -/
structure Placed (session : Session) (bindings : List (ModelId × Timeline))
    (models : List ModelId) : Prop where
  reachable : session.kernel.Reachable
  timelines : session.processor.timelines =
    some (models.map fun model => (model, (bindings.lookup model).getD .shared))
  serves : session.kernel.Serves bindings models

namespace Placed

theorem perform (h : session.Placed bindings models) {request : Request}
    (unassigned : request.isAssignment = false) :
    (session.perform request).Placed bindings models := by
  have reachable := reachable_perform h.reachable request
  cases request with
  | move move =>
    refine ⟨reachable, Eq.trans ?_ h.timelines, ?_⟩
    · cases move with
      | switchTo name => exact session.machine.timelines_switchTo name session.kernel
      | toggle => exact session.machine.timelines_switchTo "" session.kernel
      | armSwap => rfl
    · exact kernel_move_keeps (P := fun kernel => kernel.Serves bindings models)
        (fun _ serves => serves.perform rfl) (fun _ serves => serves.perform rfl) h.serves move
  | incorporate =>
    -- the processor has its timelines, so it asks the kernel for none
    have joined : session.processor.joining = .error .alreadyIncorporated := by
      refine Processor.joining_of_isIncorporated ?_
      rw [Processor.isIncorporated, h.timelines, Option.isSome_some]
    rw [Session.perform, Machine.incorporate_of_joining_error joined]
    exact h
  | kernel request indirect => exact ⟨reachable, h.timelines, h.serves.perform unassigned⟩

theorem foldl_perform (h : session.Placed bindings models) {requests : List Request}
    (unassigned : ∀ request ∈ requests, request.isAssignment = false) :
    (requests.foldl Session.perform session).Placed bindings models := by
  induction requests generalizing session with
  | nil => exact h
  | cons request rest ih =>
    obtain ⟨first, unassigned⟩ := List.forall_mem_cons.mp unassigned
    exact ih (h.perform first) unassigned

/-- The processor and the kernel agree about where a model stands. -/
theorem timeline?_eq (h : session.Placed bindings models) (distinct : (bindings.map (·.1)).Nodup)
    {model : ModelId} (mem : model ∈ models) {timeline : Timeline}
    (found : session.kernel.timeline? model = some timeline) :
    session.processor.timeline? model = some timeline := by
  rw [h.serves.timeline?_eq distinct mem found, Processor.timeline?, h.timelines, Option.bind_some]
  exact List.lookup_graph (fun model => (bindings.lookup model).getD .shared) mem

end Placed

variable {machine machine' : Machine} {kernel kernel' : Kernel}

theorem nodup_bindings (wf : machine.processor.WF)
    (h : machine.processor.isolatedTimelines = .ok bindings) : (bindings.map (·.1)).Nodup := by
  rw [(Processor.bindings_of_isolatedTimelines h).1]
  exact wf.nodup_allCores.sublist (List.filter_sublist.map _)

/-- A machine that joins a kernel has its models put where its bindings say. -/
theorem placed_of_incorporate (wf : machine.processor.WF) (reachable : kernel.Reachable)
    (shared : ∀ core ∈ machine.processor.allCores, ∀ timeline,
      kernel.timeline? core.model = some timeline → timeline = .shared)
    (h : machine.incorporate kernel = (.ok (), machine', kernel')) :
    ∃ bindings, machine.processor.isolatedTimelines = .ok bindings ∧
      Placed { machine := machine', kernel := kernel' } bindings
        (machine.processor.allCores.map (·.model)) := by
  cases free : machine.processor.joining with
  | error error => cases h.symm.trans (Machine.incorporate_of_joining_error free kernel)
  | ok bindings =>
    rcases bound : Processor.bindAccelerated bindings kernel with ⟨error | _, after⟩
    · cases h.symm.trans (Machine.incorporate_of_refused free bound)
    · have isolated := (Processor.of_joining_eq_ok free).2
      have serves : after.Serves bindings (machine.processor.allCores.map (·.model)) :=
        Kernel.serves_of_bindAccelerated (nodup_bindings wf isolated)
          (List.forall_mem_map.mpr shared) bound
      obtain ⟨-, joined⟩ :=
        Prod.mk.inj (h.symm.trans (Machine.incorporate_of_granted free bound))
      refine ⟨bindings, isolated, ?_, ?_, ?_⟩
      · have joined : (machine.incorporate kernel).2.2.Reachable :=
          reachable_incorporate trivial (fun _ _ => trivial) (fun _ => trivial) reachable
        rwa [h] at joined
      · have processor := machine.processor_joined bindings after
        rw [← joined] at processor
        refine (congrArg Processor.timelines processor).trans ?_
        rw [Processor.incorporated, List.map_map]
        rfl
      · cases machine with
        | switchable =>
          cases joined
          exact serves
        | pair pair =>
          cases joined
          have unassigned (memMode : MemMode) :
              (Kernel.Request.setMemMode memMode).isAssignment = false := rfl
          exact serves.perform (unassigned (pair.requestedMode after))

/-- A machine whose models are all on the shared timeline, as far as the kernel has them, and that
joins the kernel has its accelerated cores put on the timelines from one on in the order of its
configurations. Whatever is asked of the two from then on, except for assignments past the machine:
the accelerated cores stay there, the others on the shared timeline, the components of all on the
timelines of their objects, the processor knows these timelines, the host stays prepared, and no
isolated timeline serves two models. -/
theorem isolated_for_good (created : machine.Created) (reachable : kernel.Reachable)
    (shared : ∀ core ∈ machine.processor.allCores, ∀ timeline,
      kernel.timeline? core.model = some timeline → timeline = .shared)
    (h : machine.incorporate kernel = (.ok (), machine', kernel')) (requests : List Request)
    (unassigned : ∀ request ∈ requests, request.isAssignment = false) :
    let session := requests.foldl perform { machine := machine', kernel := kernel' }
    let accelerated := (machine.processor.allCores.filter (·.accelerated)).map (·.model)
    accelerated.map session.kernel.timeline? =
      (List.range' 1 accelerated.length).map (fun index => some ⟨index⟩) ∧
    (∀ core ∈ machine.processor.allCores, core.accelerated = false → ∀ timeline,
      session.kernel.timeline? core.model = some timeline → timeline = .shared) ∧
    (∀ core ∈ machine.processor.allCores, ∀ object,
      session.kernel.object? core.model = some object →
        session.processor.timeline? core.model = some object.timeline ∧
          object.components =
            CoreObject.componentNames.map fun name => ⟨name, object.timeline⟩) ∧
    (accelerated ≠ [] → session.kernel.hostAcceleration = true) ∧
    ∀ first second timeline, session.kernel.timeline? first = some timeline →
      session.kernel.timeline? second = some timeline → timeline.isShared = false →
      first = second := by
  intro session accelerated
  obtain ⟨bindings, isolated, placed⟩ := placed_of_incorporate created.wf reachable shared h
  obtain ⟨models, timelines⟩ := Processor.bindings_of_isolatedTimelines isolated
  have distinct := nodup_bindings created.wf isolated
  have stands : session.Placed bindings _ := placed.foldl_perform unassigned
  have arranged := stands.reachable.arranged
  have size : accelerated.length = (machine.processor.allCores.filter (·.accelerated)).length :=
    List.length_map _
  refine ⟨?_, ?_, ?_, ?_, arranged.alone⟩
  · have placed := stands.serves.map_timeline?
    rw [models, timelines, ← size] at placed
    exact placed.trans (List.map_map ..)
  · intro core mem still timeline
    refine stands.serves.shared core.model (List.mem_map_of_mem mem) ?_ timeline
    rw [models]
    intro listed
    -- no two cores share a model, so that of this core is bound for no other
    obtain ⟨other, hother, same⟩ := List.mem_map.mp listed
    obtain ⟨otherMem, fast⟩ := List.mem_filter.mp hother
    obtain rfl := List.inj_on_of_nodup_map created.wf.nodup_allCores otherMem mem same
    cases still.symm.trans fast
  · intro core mem object found
    refine ⟨stands.timeline?_eq distinct (List.mem_map_of_mem mem) ?_,
      arranged.together core.model object found⟩
    rw [Kernel.timeline?, found]
    rfl
  · intro some
    refine stands.serves.host fun none => some ?_
    change (machine.processor.allCores.filter (·.accelerated)).map (·.model) = []
    rw [← models, none]
    rfl

/-- One core on the host in slot zero. -/
def hostCore (name : String) (model : ModelId) : Configuration where
  name := name
  cores := [.create 0 .x86 model .bigKvm]
  ascending := List.pairwise_singleton _ _
  nonempty := List.cons_ne_nil _ _

/-- Two cores on the host and an atomic one between them that take turns in one slot. -/
def hostTrio : Machine :=
  .switchable
    { configurations := Processor.markSwitchedOut "atomic"
        [hostCore "first" ⟨0⟩, Machine.soleCore "atomic" ⟨1⟩, hostCore "last" ⟨2⟩]
      active := "atomic"
      isa := .x86
      timelines := none }

theorem isolated_for_good_trio :
    let kernel : Kernel := ([CoreModel.bigKvm, .dummy, .bigKvm].map .instantiate).foldl
      Kernel.perform (.create 0 false)
    let joined := perform { machine := hostTrio, kernel } .incorporate
    let requests : List Request :=
      [.kernel (.boot [⟨1⟩]) rfl, .move (.switchTo "last"), .kernel (.runQuantum 10 0.5) rfl,
        .incorporate, .kernel (.instantiate .dummy) rfl, .kernel .synchronize rfl, .move .toggle]
    let session := requests.foldl perform joined
    hostTrio.Created ∧ kernel.Reachable ∧ kernel.timeline? ⟨2⟩ = some .shared ∧
      (hostTrio.incorporate kernel).1 = .ok () ∧
      (requests.all fun request => !request.isAssignment) = true ∧
      [⟨0⟩, ⟨2⟩].map session.kernel.timeline? = [some ⟨1⟩, some ⟨2⟩] ∧
      session.processor.timeline? ⟨2⟩ = some ⟨2⟩ ∧ session.kernel.hostAcceleration = true := by
  intro kernel joined requests session
  have created : hostTrio.Created := by
    have made : Processor.create
        [hostCore "first" ⟨0⟩, Machine.soleCore "atomic" ⟨1⟩, hostCore "last" ⟨2⟩] "atomic" =
      .ok hostTrio.processor := rfl
    exact .switchable made
  have reachable : kernel.Reachable := Kernel.reachable_foldl_perform _ (.create 0 false)
  have shared : ∀ core ∈ hostTrio.processor.allCores, ∀ timeline,
      kernel.timeline? core.model = some timeline → timeline = .shared := by
    have stands : ∀ core ∈ hostTrio.processor.allCores,
        kernel.timeline? core.model = some .shared := by decide
    intro core mem timeline found
    exact (Option.some.inj ((stands core mem).symm.trans found)).symm
  have others : (requests.all fun request => !request.isAssignment) = true := rfl
  have unassigned : ∀ request ∈ requests, request.isAssignment = false := by
    simpa only [List.all_eq_true, Bool.not_eq_true'] using others
  have granted : hostTrio.incorporate kernel = (.ok (), joined.machine, joined.kernel) := rfl
  obtain ⟨placed, -, known, prepared, -⟩ :=
    isolated_for_good created reachable shared granted requests unassigned
  refine ⟨created, reachable, rfl, rfl, others, placed, ?_, prepared (List.cons_ne_nil _ _)⟩
  have last : session.kernel.timeline? ⟨2⟩ = some ⟨2⟩ :=
    (List.cons.inj (List.cons.inj placed).2).1
  obtain ⟨object, found, stands⟩ := Option.map_eq_some_iff.mp last
  have third : hostTrio.processor.allCores[2]? =
      some ((CoreHandle.create 0 .x86 ⟨2⟩ .bigKvm).setSwitchedOut true) := rfl
  have agreed := (known _ (List.mem_of_getElem? third) object found).1
  rwa [stands] at agreed

end Session

end Polycore
