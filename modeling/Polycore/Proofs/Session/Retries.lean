import Polycore.Proofs.Processor.Switching
import Polycore.Proofs.Session.Isolation

/-!
# Another attempt

An incorporation that is refused leaves the machine as it was, but the kernel keeps the assignments
that were granted before. Once the model that was in the way is on the shared timeline, another
attempt comes out as if that had been done before the first one: what is assigned again stands where
it is (`Kernel.Arranged.assignAll_again`), and what was assigned does not touch the model that was
in the way (`Kernel.assignAll_share`). The main statement is `Machine.can_be_retried`.
-/

namespace Polycore

/-! ## Kernels -/

namespace Kernel

variable {kernel next : Kernel} {model owner : ModelId} {timeline : Timeline}
  {bindings : List (ModelId × Timeline)}

theorem modifyObject_eq_self {f : CoreObject → CoreObject}
    (h : ∀ object, kernel.object? model = some object → f object = object) :
    kernel.modifyObject model f = kernel := by
  have objects : kernel.objects.modify model.raw f = kernel.objects := by
    refine List.ext_getElem? fun place => ?_
    rw [List.getElem?_modify]
    by_cases same : model.raw = place
    · subst same
      cases found : kernel.objects[model.raw]? with
      | none => rfl
      | some object => simp [h object found]
    · simp [same]
  rw [modifyObject, objects]

/-- A model that is put where it stands changes nothing. -/
theorem Arranged.assignTimeline_again (h : Arranged kernel)
    (stands : kernel.timeline? model = some timeline) :
    kernel.assignTimeline model timeline = (.ok (), kernel) := by
  obtain ⟨object, found, own⟩ := Option.map_eq_some_iff.mp stands
  have unmoved : kernel.modifyObject model (·.setTimeline timeline) = kernel := by
    refine modifyObject_eq_self fun other found' => ?_
    cases found.symm.trans found'
    have parts : (object.setTimeline object.timeline).components = object.components := by
      rw [CoreObject.setTimeline, h.together model object found, List.map_map]
      rfl
    subst own
    exact congrArg (fun components => { object with components }) parts
  have inUse : kernel.clocks.ensure timeline = kernel.clocks :=
    if_pos (h.inUse model timeline stands)
  rw [assignTimeline_granted (by rw [found, Option.isSome_some])
    fun isolated other taken => h.alone other model timeline taken stands isolated,
    unmoved, inUse]

/-- The kernel with a model on the shared timeline. -/
def share (owner : ModelId) (kernel : Kernel) : Kernel :=
  kernel.modifyObject owner (·.setTimeline .shared)

theorem isSome_object?_of_timeline? (h : kernel.timeline? model = some timeline) :
    (kernel.object? model).isSome = true := by
  obtain ⟨object, found, -⟩ := Option.map_eq_some_iff.mp h
  rw [found, Option.isSome_some]

theorem assignTimeline_shared (registered : (kernel.object? owner).isSome = true) :
    kernel.assignTimeline owner .shared = (.ok (), kernel.share owner) :=
  assignTimeline_granted registered nofun

theorem Arranged.share (h : Arranged kernel) (registered : (kernel.object? owner).isSome = true) :
    Arranged (kernel.share owner) := by
  have arranged := h.assignTimeline owner .shared
  rwa [assignTimeline_shared registered] at arranged

theorem timeline?_share (different : model ≠ owner) :
    (kernel.share owner).timeline? model = kernel.timeline? model := by
  rw [share, timeline?_setTimeline, if_neg different]

/-- What is granted without one model on the shared timeline is granted with it there. -/
theorem assignTimeline_share (different : model ≠ owner)
    (h : kernel.assignTimeline model timeline = (.ok (), next)) :
    (kernel.share owner).assignTimeline model timeline = (.ok (), next.share owner) := by
  rcases kernel.assignTimeline_cases model timeline with ⟨_, refused⟩ | ⟨registered, free, granted⟩
  · cases h.symm.trans refused
  cases h.symm.trans granted
  have places : owner.raw ≠ model.raw := fun same => different (congrArg ModelId.mk same.symm)
  have registered' : ((kernel.share owner).object? model).isSome = true := by
    rwa [share, object?_modifyObject_of_ne _ different]
  rw [assignTimeline_granted registered' ?_]
  · simp only [share, modifyObject, List.modify_modify_ne _ _ kernel.objects places]
  · intro isolated other taken
    rw [share, timeline?_setTimeline] at taken
    split at taken
    · obtain ⟨_, -, shared⟩ := Option.map_eq_some_iff.mp taken
      rw [← shared] at isolated
      cases isolated
    · exact free isolated other taken

/-! ## All assignments -/

theorem assignAll_append (first second : List (ModelId × Timeline)) (kernel : Kernel)
    (h : Processor.assignAll first kernel = (.ok (), next)) :
    Processor.assignAll (first ++ second) kernel = Processor.assignAll second next := by
  induction first generalizing kernel with
  | nil =>
    cases h
    rfl
  | cons binding rest ih =>
    rw [Processor.assignAll] at h
    rw [List.cons_append, Processor.assignAll]
    split at h
    · cases h
    · exact ih _ h

theorem assignAll_share (others : owner ∉ bindings.map (·.1))
    (h : Processor.assignAll bindings kernel = (.ok (), next)) :
    Processor.assignAll bindings (kernel.share owner) = (.ok (), next.share owner) := by
  induction bindings generalizing kernel with
  | nil =>
    cases h
    rfl
  | cons binding rest ih =>
    obtain ⟨different, others⟩ := not_or.mp (List.mem_cons.not.mp others)
    rw [Processor.assignAll] at h ⊢
    split at h
    · cases h
    · next assigned granted =>
      have along : Board.assignTimeline binding.1 binding.2 (kernel.share owner) =
          (.ok (), assigned.share owner) := assignTimeline_share (Ne.symm different) granted
      rw [along]
      exact ih others h

/-- Models that are put where they stand change nothing. -/
theorem Arranged.assignAll_again (h : Arranged kernel)
    (stand : ∀ binding ∈ bindings, kernel.timeline? binding.1 = some binding.2) :
    Processor.assignAll bindings kernel = (.ok (), kernel) := by
  induction bindings with
  | nil => rfl
  | cons binding rest ih =>
    obtain ⟨first, rest⟩ := List.forall_mem_cons.mp stand
    have again : Board.assignTimeline binding.1 binding.2 kernel = (.ok (), kernel) :=
      h.assignTimeline_again first
    rw [Processor.assignAll, again]
    exact ih rest

/-- Assignments are refused at one of them, after all before it were granted. -/
theorem exists_of_assignAll_eq_error {error : BoardError}
    (h : Processor.assignAll bindings kernel = (.error error, next)) :
    ∃ done binding rest, bindings = done ++ binding :: rest ∧
      Processor.assignAll done kernel = (.ok (), next) ∧
      next.assignTimeline binding.1 binding.2 = (.error error, next) := by
  induction bindings generalizing kernel with
  | nil => cases h
  | cons binding rest ih =>
    rw [Processor.assignAll] at h
    split at h
    · next refused =>
      cases h
      rcases kernel.assignTimeline_cases binding.1 binding.2 with ⟨_, without⟩ | ⟨-, -, granted⟩
      · cases refused.symm.trans without
        exact ⟨[], binding, rest, rfl, rfl, without⟩
      · cases refused.symm.trans granted
    · next granted =>
      obtain ⟨done, binding', rest', rfl, before, refused⟩ := ih h
      refine ⟨binding :: done, binding', rest', rfl, ?_, refused⟩
      rw [Processor.assignAll, granted]
      exact before

/-- The model that is in the way stands on the timeline. -/
theorem of_assignTimeline_eq_timelineInUse {taken : Timeline}
    (h : kernel.assignTimeline model timeline = (.error (.timelineInUse taken owner), next)) :
    owner ≠ model ∧ kernel.timeline? owner = some timeline := by
  unfold assignTimeline at h
  split at h
  · cases h
  · split at h
    · next first found =>
      cases h
      split at found
      · cases found
      · obtain ⟨index, -, other⟩ := List.exists_of_findSome?_eq_some found
        split at other
        · next stands =>
          cases other
          exact stands
        · cases other
    · cases h

/-- Once the model in the way of a refused assignment is on the shared timeline, all assignments
together come out as if it had been there before. -/
theorem Arranged.assignAll_shared_again (h : Arranged next)
    (models : (bindings.map (·.1)).Nodup) (timelines : (bindings.map (·.2)).Nodup)
    {taken : Timeline}
    (refused : Processor.assignAll bindings kernel = (.error (.timelineInUse taken owner), next)) :
    Processor.assignAll bindings (next.share owner) =
      Processor.assignAll bindings (kernel.share owner) := by
  obtain ⟨done, binding, rest, rfl, before, last⟩ := exists_of_assignAll_eq_error refused
  obtain ⟨-, stands⟩ := of_assignTimeline_eq_timelineInUse last
  simp only [List.map_append, List.map_cons] at models timelines
  have placed := (timeline?_of_assignAll (List.nodup_append.mp models).1 before).1
  -- the models that were assigned stand on timelines of their own, so none of them is in the way
  have others : owner ∉ done.map (·.1) := by
    intro mem
    obtain ⟨assigned, hassigned, rfl⟩ := List.mem_map.mp mem
    have same := Option.some.inj ((placed assigned hassigned).symm.trans stands)
    exact (List.nodup_append'.mp timelines).2.2 (List.mem_map_of_mem hassigned)
      (same ▸ List.mem_cons_self)
  have again : Processor.assignAll done (next.share owner) = (.ok (), next.share owner) := by
    refine (h.share (isSome_object?_of_timeline? stands)).assignAll_again fun assigned mem => ?_
    have different : assigned.1 ≠ owner := by
      rintro rfl
      exact others (List.mem_map_of_mem mem)
    rw [timeline?_share different]
    exact placed assigned mem
  rw [assignAll_append _ _ _ again, assignAll_append _ _ _ (assignAll_share others before)]

theorem bindAccelerated_of_ne_nil (some : bindings ≠ []) (kernel : Kernel) :
    Processor.bindAccelerated bindings kernel =
      Processor.assignAll bindings { kernel with hostAcceleration := true } :=
  if_neg (List.isEmpty_iff.not.mpr some)

theorem ne_nil_of_bindAccelerated_eq_error {error : BoardError}
    (refused : Processor.bindAccelerated bindings kernel = (.error error, next)) :
    bindings ≠ [] := by
  rintro rfl
  cases refused

/-- The model that is in the way is there before the bindings and after them. -/
theorem registered_of_timelineInUse {taken : Timeline}
    (refused : Processor.bindAccelerated bindings kernel =
      (.error (.timelineInUse taken owner), next)) :
    (kernel.object? owner).isSome = true ∧ (next.object? owner).isSome = true := by
  have size : (Processor.bindAccelerated bindings kernel).2.objects.length =
      kernel.objects.length :=
    Processor.bindAccelerated_keeps
      (P := fun next : Kernel => next.objects.length = kernel.objects.length) id
      (fun model timeline same =>
        (length_objects_perform _ (.assignTimeline model timeline)).trans same) bindings rfl
  have some := ne_nil_of_bindAccelerated_eq_error refused
  rw [refused] at size
  rw [bindAccelerated_of_ne_nil some] at refused
  obtain ⟨_, _, _, -, -, last⟩ := exists_of_assignAll_eq_error refused
  have after := isSome_object?_of_timeline? (of_assignTimeline_eq_timelineInUse last).2
  rw [isSome_object?_iff] at after ⊢
  exact ⟨size ▸ after, by rwa [isSome_object?_iff]⟩

theorem bindAccelerated_shared_again (reachable : kernel.Reachable)
    (models : (bindings.map (·.1)).Nodup) (timelines : (bindings.map (·.2)).Nodup)
    {taken : Timeline}
    (refused : Processor.bindAccelerated bindings kernel =
      (.error (.timelineInUse taken owner), next)) :
    Processor.bindAccelerated bindings (next.share owner) =
      Processor.bindAccelerated bindings (kernel.share owner) := by
  have some := ne_nil_of_bindAccelerated_eq_error refused
  let prepared : Kernel := { kernel with hostAcceleration := true }
  rw [bindAccelerated_of_ne_nil some] at refused
  have kept : (Processor.assignAll bindings prepared).2.hostAcceleration = true :=
    hostAcceleration_assignAll bindings rfl
  have reached : (Processor.assignAll bindings prepared).2.Reachable :=
    Processor.assignAll_keeps (P := Reachable)
      (fun model timeline h => .perform (.assignTimeline model timeline) trivial h)
      (.perform .enableHostAcceleration trivial reachable)
  rw [refused] at kept reached
  have host : { next.share owner with hostAcceleration := true } = next.share owner :=
    congrArg (fun host => { next.share owner with hostAcceleration := host }) kept.symm
  rw [bindAccelerated_of_ne_nil some, bindAccelerated_of_ne_nil some, host]
  exact reached.arranged.assignAll_shared_again models timelines refused

end Kernel

/-! ## Machines -/

/-- What a processor is refused for on sight is no refusal of a board. -/
theorem Processor.joining_ne_board (processor : Processor) (refusal : BoardError) :
    processor.joining ≠ .error (.board refusal) := by
  have own (first : Nat) (cores : List CoreHandle) :
      isolate first cores ≠ .error (.board refusal) := by
    induction cores generalizing first with
    | nil =>
      intro h
      cases h
    | cons core rest ih =>
      intro h
      rw [isolate] at h
      split at h
      · cases h
      · split at h
        · next error refused =>
          cases h
          exact ih _ refused
        · cases h
  intro h
  rw [joining] at h
  split at h
  · cases h
  · exact own 0 _ h

namespace Machine

variable {machine : Machine} {configurations : List Configuration}

/-- The bindings ask for no memory mode. -/
theorem exists_asked {σ : Type} [Board σ] (bindings : List (ModelId × Timeline)) (board : σ)
    (asked : List Board.Request) :
    ∃ requests, (∀ memMode, .setMemMode memMode ∉ requests) ∧
      (Processor.bindAccelerated bindings (⟨board, asked⟩ : Watched σ)).2.asked =
        asked ++ requests := by
  let P (watched : Watched σ) : Prop := ∃ requests : List Board.Request,
    (∀ memMode, .setMemMode memMode ∉ requests) ∧ watched.asked = asked ++ requests
  have ask {watched : Watched σ} (request : Board.Request)
      (other : ∀ memMode, request ≠ .setMemMode memMode) (pass : σ → Answer σ) (h : P watched) :
      P (watched.ask request pass).2 := by
    obtain ⟨requests, none, same⟩ := h
    refine ⟨requests ++ [request], fun memMode => ?_, ?_⟩
    · simpa using ⟨none memMode, (other memMode).symm⟩
    · rw [← List.append_assoc, ← same]
      rfl
  refine Processor.bindAccelerated_keeps (P := P) ?_ ?_ bindings ⟨[], nofun, by simp⟩
  · exact fun h => ask .enableHostAcceleration nofun Board.enableHostAcceleration h
  · exact fun model timeline h =>
      ask (.assignTimeline model timeline) nofun (Board.assignTimeline model timeline) h

/-- A machine that is refused on a board is refused in the same way when the board is watched. -/
theorem incorporate_watched {σ : Type} [Board σ] {machine' : Machine} {board board' : σ}
    {error : ProcessorError} (h : machine.incorporate board = (.error error, machine', board'))
    (asked : List Board.Request) :
    ∃ requests, (∀ memMode, .setMemMode memMode ∉ requests) ∧
      machine.incorporate (⟨board, asked⟩ : Watched σ) =
        (.error error, machine, ⟨board', asked ++ requests⟩) := by
  have along := machine.incorporate_along (f := Watched.board) (fun _ => rfl) (fun _ _ _ => rfl)
    (fun _ _ => rfl) (fun _ => rfl) (⟨board, asked⟩ : Watched σ)
  rcases outcome : machine.incorporate (⟨board, asked⟩ : Watched σ) with ⟨answer, later, watched⟩
  rw [outcome] at along
  obtain ⟨rfl, rest⟩ := Prod.mk.inj (h.symm.trans along)
  obtain ⟨-, rfl⟩ := Prod.mk.inj rest
  obtain ⟨rfl, ⟨rfl, -⟩ | ⟨bindings, refusal, -, -, bound⟩⟩ := of_incorporate_eq_error outcome
  · exact ⟨[], nofun, by rw [List.append_nil]⟩
  · obtain ⟨requests, none, same⟩ := exists_asked bindings board asked
    rw [bound] at same
    exact ⟨requests, none, by rw [← same]⟩

/-- An incorporation that is refused can be tried again. Whatever a machine was called for before,
on any board: a refusal leaves the machine as it was, and the board was asked for no memory mode. On
a kernel, if a model is in the way on the timeline that a core should get, it can be put on the
shared timeline, and then another attempt comes out as the first one would have, had the model been
put there before: with the same answer, the same machine and the same kernel. -/
theorem can_be_retried (made : machine.MadeOf configurations) {τ : Type} [Board τ]
    (calls : List (Call × τ)) :
    let later := machine.after calls
    (∀ (σ : Type) [Board σ] (board : σ) error machine' board',
      later.incorporate board = (.error error, machine', board') →
      machine' = later ∧ ∀ asked, ∃ requests, (∀ memMode, .setMemMode memMode ∉ requests) ∧
        later.incorporate (⟨board, asked⟩ : Watched σ) =
          (.error error, later, ⟨board', asked ++ requests⟩)) ∧
    ∀ kernel : Kernel, kernel.Reachable → ∀ timeline owner machine' refused,
      later.incorporate kernel =
        (.error (.board (.timelineInUse timeline owner)), machine', refused) →
      ∃ freed refused', kernel.assignTimeline owner .shared = (.ok (), freed) ∧
        refused.assignTimeline owner .shared = (.ok (), refused') ∧
        machine'.incorporate refused' = later.incorporate freed := by
  intro later
  have wf : later.processor.WF := (made.intact.1.after calls).wf
  refine ⟨fun σ _ board error machine' board' h => ?_, ?_⟩
  · exact ⟨(of_incorporate_eq_error h).1, incorporate_watched h⟩
  · intro kernel reachable timeline owner machine' refused h
    obtain ⟨rfl, ⟨-, own⟩ | ⟨bindings, refusal, free, same, bound⟩⟩ := of_incorporate_eq_error h
    · cases later.processor.joining_ne_board _ own
    · cases same
      obtain ⟨before, after⟩ := Kernel.registered_of_timelineInUse bound
      refine ⟨_, _, Kernel.assignTimeline_shared before, Kernel.assignTimeline_shared after, ?_⟩
      have isolated := (Processor.of_joining_eq_ok free).2
      exact incorporate_congr free (Kernel.bindAccelerated_shared_again reachable
        (Session.nodup_bindings wf isolated)
        (Processor.nodup_timelines_of_isolatedTimelines isolated) bound)

/-- A machine with two cores on the host. Once a stranger is on the timeline of the second of them,
so that the first is bound before the refusal, and once the second is on the timeline of the
first. -/
theorem can_be_retried_trio :
    let kernel : Kernel := ([CoreModel.bigKvm, .dummy, .bigKvm, .dummy].map .instantiate).foldl
      Kernel.perform (.create 0 false)
    let strange := kernel.perform (.assignTimeline ⟨3⟩ ⟨2⟩)
    let own := kernel.perform (.assignTimeline ⟨2⟩ ⟨1⟩)
    let attempt (kernel : Kernel) := Session.hostTrio.incorporate kernel
    let share (owner : ModelId) (kernel : Kernel) := kernel.perform (.assignTimeline owner .shared)
    strange.Reachable ∧ own.Reachable ∧
      (attempt strange).1 = .error (.board (.timelineInUse ⟨2⟩ ⟨3⟩)) ∧
      (attempt strange).2.2.timeline? ⟨0⟩ = some ⟨1⟩ ∧
      attempt (share ⟨3⟩ (attempt strange).2.2) = attempt (share ⟨3⟩ strange) ∧
      (attempt (share ⟨3⟩ strange)).1 = .ok () ∧
      (attempt own).1 = .error (.board (.timelineInUse ⟨1⟩ ⟨2⟩)) ∧
      attempt (share ⟨2⟩ (attempt own).2.2) = attempt (share ⟨2⟩ own) ∧
      (attempt (share ⟨2⟩ own)).1 = .ok () := by
  intro kernel strange own attempt share
  have created : Processor.create
      [Session.hostCore "first" ⟨0⟩, soleCore "atomic" ⟨1⟩, Session.hostCore "last" ⟨2⟩] "atomic" =
    .ok Session.hostTrio.processor := rfl
  have made : Session.hostTrio.MadeOf
      [Session.hostCore "first" ⟨0⟩, soleCore "atomic" ⟨1⟩, Session.hostCore "last" ⟨2⟩] :=
    .switchable created
  have fresh : kernel.Reachable := Kernel.reachable_foldl_perform _ (.create 0 false)
  have reachable (request : Kernel.Request) : (kernel.perform request).Reachable :=
    .perform request trivial fresh
  have retry := (can_be_retried made ([] : List (Call × Recorder))).2
  have first : attempt (share ⟨3⟩ (attempt strange).2.2) = attempt (share ⟨3⟩ strange) := by
    obtain ⟨_, _, freed, refreed, same⟩ := retry strange (reachable _) ⟨2⟩ ⟨3⟩ _ _ rfl
    cases freed
    cases refreed
    exact same
  have second : attempt (share ⟨2⟩ (attempt own).2.2) = attempt (share ⟨2⟩ own) := by
    obtain ⟨_, _, freed, refreed, same⟩ := retry own (reachable _) ⟨1⟩ ⟨2⟩ _ _ rfl
    cases freed
    cases refreed
    exact same
  exact ⟨reachable _, reachable _, rfl, rfl, first, rfl, rfl, second, rfl⟩

end Machine

end Polycore
