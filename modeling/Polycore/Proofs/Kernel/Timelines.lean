import Polycore.Proofs.Kernel.Clocks

/-!
# Objects on timelines

In a reachable kernel every object stands on its timeline with all its components, an isolated
timeline serves at most one object, and a timeline that serves one is in use
(`Kernel.Arranged`). Registrations and assignments alone place objects (`places_perform`), and no
request takes a timeline out of use or sets one back (`clocks_precedes_perform`). The main statement
is `arrangement_of_requests`.
-/

namespace Polycore.Kernel

variable {kernel next : Kernel} {model other : ModelId} {timeline : Timeline}

/-! ## Clocks -/

theorem runModels_of_runModel {P : Kernel → Prop} {ticks : Nat} {fpFraction : Float}
    (step : ∀ {kernel} model, P kernel → P (kernel.runModel ticks fpFraction model).2)
    (models : List ModelId) (h : P kernel) : P (runModels ticks fpFraction models kernel).2 := by
  induction models generalizing kernel with
  | nil => exact h
  | cons model rest ih => exact ih (step model h)

/-- A model on an isolated timeline takes it along; one on the shared timeline moves no clock. -/
theorem clocks_runModel (kernel : Kernel) (ticks : Nat) (fpFraction : Float) (model : ModelId) :
    (kernel.runModel ticks fpFraction model).2.clocks = kernel.clocks ∨
      ∃ object, kernel.object? model = some object ∧ object.timeline.isShared = false ∧
        (kernel.runModel ticks fpFraction model).2.clocks =
          kernel.clocks.advance object.timeline
            (drawAdvance ticks object.timeline kernel.random).1 := by
  unfold runModel
  split
  · exact .inl rfl
  · next object found =>
    dsimp only
    split
    · exact .inl rfl
    · next isolated => exact .inr ⟨object, found, by simpa using isolated, rfl⟩

section Keeps

variable {P : Clocks → Prop} (synchronize : ∀ {clocks : Clocks}, P clocks → P clocks.synchronize)
  (ensure : ∀ {clocks : Clocks} timeline, P clocks → P (clocks.ensure timeline))
  (advance : ∀ {clocks : Clocks} {timeline : Timeline} ticks, timeline.isShared = false →
    P clocks → P (clocks.advance timeline ticks))
  (advanceShared : ∀ {clocks : Clocks} ticks, P clocks → P (clocks.advanceShared ticks))

include advance advanceShared in
theorem clocks_runQuantum_keeps (ticks : Nat) (fpFraction : Float) (h : P kernel.clocks) :
    P (kernel.runQuantum ticks fpFraction).2.clocks := by
  refine advanceShared ticks ?_
  refine runModels_of_runModel (P := fun next => P next.clocks) (fun {next} model h => ?_) _ h
  rcases next.clocks_runModel ticks fpFraction model with same | ⟨object, -, isolated, advanced⟩
  · rw [same]
    exact h
  · rw [advanced]
    exact advance _ isolated h

include synchronize ensure advance advanceShared in
/-- What survives every change of the clocks survives every request to the kernel. -/
theorem clocks_perform_keeps (h : P kernel.clocks) (request : Request) :
    P (kernel.perform request).clocks := by
  cases request with
  | boot active =>
    rw [perform, clocks_boot]
    exact h
  | assignTimeline model timeline =>
    simp only [perform, assignTimeline]
    split
    · exact h
    · split
      · exact h
      · exact ensure timeline h
  | swap pairs =>
    rw [perform]
    rcases kernel.clocks_swap pairs with same | synchronized
    · rw [same]
      exact h
    · rw [synchronized]
      exact synchronize h
  | runQuantum ticks fpFraction => exact clocks_runQuantum_keeps advance advanceShared ticks _ h
  | synchronize => exact synchronize h
  | instantiate | failNextSwap | enableHostAcceleration | setMemMode => exact h

end Keeps

/-- No request takes a timeline out of use or sets one back. -/
theorem clocks_precedes_perform (kernel : Kernel) (request : Request) :
    kernel.clocks.Precedes (kernel.perform request).clocks := by
  refine clocks_perform_keeps (P := kernel.clocks.Precedes) ?_ ?_ ?_ ?_ (.refl _) request
  · exact fun h => h.trans (.synchronize _)
  · exact fun timeline h => h.trans (.ensure _ timeline)
  · exact fun ticks isolated h => h.trans (.advance isolated ticks _)
  · exact fun ticks h => h.trans (.advanceShared ticks _)

/-- In a reachable kernel every timeline in use has one tick. -/
theorem ReachableBy.keyed {allowed : Request → Prop} (h : ReachableBy allowed kernel) :
    kernel.clocks.Keyed := by
  induction h with
  | create => exact ⟨.nil, nofun⟩
  | perform request _ _ ih =>
    refine clocks_perform_keeps (P := Clocks.Keyed) ?_ ?_ ?_ ?_ ih request
    · exact fun h => h.synchronize
    · exact fun timeline h => h.ensure timeline
    · exact fun ticks isolated h => h.advance isolated ticks
    · exact fun ticks h => h.advanceShared ticks

/-! ## Places -/

/-- Where an object and its components stand. -/
abbrev place (object : CoreObject) : Timeline × List Component :=
  (object.timeline, object.components)

/-- Where the objects stand, in the order of their models. -/
def places (kernel : Kernel) : List (Timeline × List Component) :=
  kernel.objects.map place

theorem timeline?_eq_places (kernel : Kernel) (model : ModelId) :
    kernel.timeline? model = (kernel.places[model.raw]?).map (·.1) := by
  rw [timeline?, object?, places, List.getElem?_map, Option.map_map]
  rfl

theorem places_modifyObject {f : CoreObject → CoreObject}
    (h : ∀ object, place (f object) = place object) (kernel : Kernel) (model : ModelId) :
    (kernel.modifyObject model f).places = kernel.places :=
  map_objects_modifyObject place f h kernel model

theorem places_startAll (active : List ModelId) (kernel : Kernel) :
    (kernel.startAll active).places = kernel.places := by
  refine view_foldl places (fun kernel model => ?_) active kernel
  exact places_modifyObject (f := (·.setArch (some {}))) (fun _ => rfl) kernel model

theorem places_boot (kernel : Kernel) (active : List ModelId) :
    (kernel.boot active).2.places = kernel.places := by
  rcases kernel.boot_cases active with ⟨_, h⟩ | ⟨_, _, h⟩
  · rw [h]
  · rw [h]
    exact places_startAll active kernel

theorem places_swap (kernel : Kernel) (pairs : List (ModelId × ModelId)) :
    (kernel.swap pairs).2.places = kernel.places := by
  rcases kernel.swap_cases pairs with ⟨_, _, h⟩ | ⟨_, _, h⟩ | ⟨_, _, _, h⟩
  · rw [h]
    rfl
  · rw [h]
  · rw [h]
    refine view_foldl places (fun kernel pair => ?_) pairs kernel.synchronize.2
    rw [handOver, places_modifyObject, places_modifyObject]
    · exact fun _ => rfl
    · exact fun _ => rfl

theorem places_runModel (kernel : Kernel) (ticks : Nat) (fpFraction : Float) (model : ModelId) :
    (kernel.runModel ticks fpFraction model).2.places = kernel.places := by
  unfold runModel
  split
  · rfl
  · exact places_modifyObject (f := fun object => object.retire _) (fun _ => rfl) kernel model

theorem places_runQuantum (kernel : Kernel) (ticks : Nat) (fpFraction : Float) :
    (kernel.runQuantum ticks fpFraction).2.places = kernel.places :=
  runModels_of_runModel (P := fun next => next.places = kernel.places)
    (fun model h => (places_runModel _ _ _ model).trans h) _ rfl

/-- Asks for a core object to be registered. -/
def Request.isInstantiate : Request → Bool
  | instantiate _ => true
  | _ => false

/-- Asks for an object to be registered or to be put on a timeline. -/
def Request.isPlacing : Request → Bool
  | instantiate _ => true
  | assignTimeline .. => true
  | _ => false

/-- Whatever else is asked of a kernel leaves every object where it stands. -/
theorem places_perform (kernel : Kernel) {request : Request} (h : request.isPlacing = false) :
    (kernel.perform request).places = kernel.places := by
  cases request with
  | instantiate | assignTimeline => cases h
  | boot active => exact kernel.places_boot active
  | swap pairs => exact kernel.places_swap pairs
  | runQuantum ticks fpFraction => exact kernel.places_runQuantum ticks fpFraction
  | synchronize | failNextSwap | enableHostAcceleration | setMemMode => rfl

/-- A registration puts the new object on the shared timeline. -/
theorem timeline?_instantiate_cases (kernel : Kernel) (descriptor : CoreModel) (model : ModelId) :
    (kernel.instantiate descriptor).2.timeline? model = kernel.timeline? model ∨
      kernel.timeline? model = none ∧
        (kernel.instantiate descriptor).2.timeline? model = some .shared := by
  rcases kernel.object?_instantiate_cases descriptor model with same | ⟨unknown, new⟩
  · left
    rw [timeline?, same, timeline?]
  · right
    rw [timeline?, timeline?, unknown, new]
    exact ⟨rfl, rfl⟩

/-! ## Assignments -/

theorem owner?_eq_none_iff :
    kernel.owner? model timeline = none ↔
      ∀ other, kernel.timeline? other = some timeline → other = model := by
  simp only [owner?, List.findSome?_eq_none_iff, List.mem_range, ite_eq_right_iff, reduceCtorEq,
    imp_false, not_and, ne_eq]
  constructor
  · intro h other found
    by_contra different
    refine h other.raw ?_ different found
    obtain ⟨object, hobject, -⟩ := Option.map_eq_some_iff.mp found
    exact (List.getElem?_eq_some_iff.mp hobject).1
  · intro h index _ different found
    exact different (h ⟨index⟩ found)

theorem timeline?_setTimeline (kernel : Kernel) (model : ModelId) (timeline : Timeline)
    (other : ModelId) :
    (kernel.modifyObject model (·.setTimeline timeline)).timeline? other =
      if other = model then (kernel.timeline? other).map fun _ => timeline
      else kernel.timeline? other := by
  rw [timeline?, object?_modifyObject, timeline?]
  split
  · rw [Option.map_map, Option.map_map]
    rfl
  · rfl

/-- An assignment is refused without a trace, or finds the model registered and the timeline shared
or free. -/
theorem assignTimeline_cases (kernel : Kernel) (model : ModelId) (timeline : Timeline) :
    (∃ error, kernel.assignTimeline model timeline = (.error error, kernel)) ∨
    ((kernel.object? model).isSome = true ∧
      (timeline.isShared = false →
        ∀ other, kernel.timeline? other = some timeline → other = model) ∧
      kernel.assignTimeline model timeline =
        (.ok (), { kernel.modifyObject model (·.setTimeline timeline) with
          clocks := kernel.clocks.ensure timeline })) := by
  unfold assignTimeline
  split
  · exact .inl ⟨_, rfl⟩
  · next object found =>
    split
    · exact .inl ⟨_, rfl⟩
    · next free =>
      refine .inr ⟨by simp [found], ?_, rfl⟩
      intro isolated
      rw [isolated, if_neg Bool.false_ne_true] at free
      exact owner?_eq_none_iff.mp free

theorem timeline?_of_assignTimeline_eq_ok
    (h : kernel.assignTimeline model timeline = (.ok (), next)) (other : ModelId) :
    next.timeline? other = if other = model then some timeline else kernel.timeline? other := by
  rcases kernel.assignTimeline_cases model timeline with ⟨_, refused⟩ | ⟨registered, -, granted⟩
  · cases h.symm.trans refused
  · cases h.symm.trans granted
    refine (timeline?_setTimeline kernel model timeline other).trans ?_
    split
    · next same =>
      obtain ⟨object, found⟩ := Option.isSome_iff_exists.mp registered
      rw [same, Kernel.timeline?, found]
      rfl
    · rfl

/-! ## Kernels with their objects arranged -/

/-- How the objects of a kernel are arranged on timelines. -/
structure Arranged (kernel : Kernel) : Prop where
  /-- an isolated timeline serves one object -/
  alone : ∀ first second timeline, kernel.timeline? first = some timeline →
    kernel.timeline? second = some timeline → timeline.isShared = false → first = second
  /-- all components of an object stand on its timeline -/
  together : ∀ model object, kernel.object? model = some object →
    object.components = CoreObject.componentNames.map fun name => ⟨name, object.timeline⟩
  /-- a timeline that serves an object is in use -/
  inUse : ∀ model timeline, kernel.timeline? model = some timeline →
    (kernel.clocks.tick? timeline).isSome = true

theorem Arranged.create (seed : UInt64) (ruby : Bool) : Arranged (.create seed ruby) where
  alone _ _ _ found := by cases found
  together _ _ found := by cases found
  inUse _ _ found := by cases found

theorem isSome_of_precedes {clocks later : Clocks} (precedes : clocks.Precedes later)
    (h : (clocks.tick? timeline).isSome = true) : (later.tick? timeline).isSome = true := by
  obtain ⟨tick, htick⟩ := Option.isSome_iff_exists.mp h
  obtain ⟨tick', htick', -⟩ := precedes timeline tick htick
  rw [htick', Option.isSome_some]

namespace Arranged

theorem of_places (h : Arranged kernel) (places : next.places = kernel.places)
    (clocks : kernel.clocks.Precedes next.clocks) : Arranged next where
  alone first second timeline := by
    simp only [timeline?_eq_places, places]
    simpa only [timeline?_eq_places] using h.alone first second timeline
  together model object found := by
    have stands : kernel.places[model.raw]? = some (place object) := by
      rw [← places, Kernel.places, List.getElem?_map]
      exact congrArg (Option.map place) found
    rw [Kernel.places, List.getElem?_map, Option.map_eq_some_iff] at stands
    obtain ⟨before, hbefore, same⟩ := stands
    obtain ⟨timeline, components⟩ := Prod.mk.inj same
    rw [← components, ← timeline]
    exact h.together model before hbefore
  inUse model timeline found := by
    rw [timeline?_eq_places, places, ← timeline?_eq_places] at found
    exact isSome_of_precedes clocks (h.inUse model timeline found)

theorem instantiate (h : Arranged kernel) (descriptor : CoreModel) :
    Arranged (kernel.instantiate descriptor).2 := by
  have timeline? (model : ModelId) (timeline : Timeline)
      (found : (kernel.instantiate descriptor).2.timeline? model = some timeline) :
      kernel.timeline? model = some timeline ∨ timeline = .shared := by
    rcases kernel.timeline?_instantiate_cases descriptor model with same | ⟨-, new⟩
    · exact .inl (same.symm.trans found)
    · exact .inr (Option.some.inj (new.symm.trans found)).symm
  refine ⟨?_, ?_, ?_⟩
  · intro first second timeline hfirst hsecond isolated
    have different : timeline ≠ .shared := by
      rintro rfl
      cases isolated
    exact h.alone first second timeline ((timeline? _ _ hfirst).resolve_right different)
      ((timeline? _ _ hsecond).resolve_right different) isolated
  · intro model object found
    rcases kernel.object?_instantiate_cases descriptor model with same | ⟨-, new⟩
    · exact h.together model object (same ▸ found)
    · rw [new, Option.some.injEq] at found
      subst found
      rfl
  · intro model timeline found
    rcases timeline? model timeline found with old | rfl
    · exact h.inUse model timeline old
    · rfl

theorem assignTimeline (h : Arranged kernel) (model : ModelId) (timeline : Timeline) :
    Arranged (kernel.assignTimeline model timeline).2 := by
  rcases kernel.assignTimeline_cases model timeline with ⟨_, refused⟩ | ⟨-, free, granted⟩
  · rw [refused]
    exact h
  rw [granted]
  have stands {other : ModelId} {timeline' : Timeline}
      (found : (kernel.modifyObject model (·.setTimeline timeline)).timeline? other =
        some timeline') :
      other = model ∧ timeline' = timeline ∨
        other ≠ model ∧ kernel.timeline? other = some timeline' := by
    rw [timeline?_setTimeline] at found
    split at found
    · next same =>
      obtain ⟨_, -, rfl⟩ := Option.map_eq_some_iff.mp found
      exact .inl ⟨same, rfl⟩
    · next different => exact .inr ⟨different, found⟩
  refine ⟨?_, ?_, ?_⟩
  · intro first second timeline' hfirst hsecond isolated
    rcases stands hfirst with ⟨rfl, rfl⟩ | ⟨-, oldFirst⟩
    · rcases stands hsecond with ⟨rfl, -⟩ | ⟨-, oldSecond⟩
      · rfl
      · exact (free isolated second oldSecond).symm
    · rcases stands hsecond with ⟨rfl, rfl⟩ | ⟨-, oldSecond⟩
      · exact free isolated first oldFirst
      · exact h.alone first second timeline' oldFirst oldSecond isolated
  · intro other object found
    change (kernel.modifyObject model (·.setTimeline timeline)).object? other = _ at found
    rw [object?_modifyObject] at found
    split at found
    · obtain ⟨before, hbefore, rfl⟩ := Option.map_eq_some_iff.mp found
      simp [CoreObject.setTimeline, h.together other before hbefore]
    · exact h.together other object found
  · intro other timeline' found
    change ((kernel.clocks.ensure timeline).tick? timeline').isSome = true
    rcases stands found with ⟨rfl, rfl⟩ | ⟨-, found⟩
    · simp [Clocks.tick?_ensure]
    · exact isSome_of_precedes (.ensure _ timeline) (h.inUse other timeline' found)

theorem perform (h : Arranged kernel) (request : Request) : Arranged (kernel.perform request) := by
  cases placing : request.isPlacing with
  | false =>
    exact h.of_places (places_perform kernel placing) (clocks_precedes_perform kernel request)
  | true =>
    cases request with
    | instantiate descriptor => exact h.instantiate descriptor
    | assignTimeline model timeline => exact h.assignTimeline model timeline
    | _ => cases placing

end Arranged

theorem ReachableBy.arranged {allowed : Request → Prop} (h : ReachableBy allowed kernel) :
    Arranged kernel := by
  induction h with
  | create seed ruby => exact .create seed ruby
  | perform request _ _ ih => exact ih.perform request

/-! ## Registered models -/

theorem length_places (kernel : Kernel) : kernel.places.length = kernel.objects.length :=
  List.length_map _

theorem length_objects_perform (kernel : Kernel) (request : Request) :
    (kernel.perform request).objects.length =
      kernel.objects.length + if request.isInstantiate then 1 else 0 := by
  cases placing : request.isPlacing with
  | false =>
    rw [← length_places, places_perform kernel placing, length_places]
    cases request with
    | instantiate => cases placing
    | _ => rfl
  | true =>
    cases request with
    | instantiate descriptor => simp [Kernel.perform, Kernel.instantiate, Request.isInstantiate]
    | assignTimeline model timeline =>
      rcases kernel.assignTimeline_cases model timeline with ⟨_, refused⟩ | ⟨-, -, granted⟩
      · simp [Kernel.perform, refused, Request.isInstantiate]
      · simp [Kernel.perform, granted, Request.isInstantiate, modifyObject]
    | _ => cases placing

theorem length_objects_foldl_perform (requests : List Request) (kernel : Kernel) :
    (requests.foldl perform kernel).objects.length =
      kernel.objects.length + requests.countP (·.isInstantiate) := by
  induction requests generalizing kernel with
  | nil => rfl
  | cons request rest ih =>
    rw [List.foldl_cons, ih, length_objects_perform, List.countP_cons]
    omega

theorem ReachableBy.foldl_perform {allowed : Request → Prop} (h : ReachableBy allowed kernel)
    {requests : List Request} (permitted : ∀ request ∈ requests, allowed request) :
    ReachableBy allowed (requests.foldl Kernel.perform kernel) := by
  induction requests generalizing kernel with
  | nil => exact h
  | cons request rest ih =>
    rw [List.forall_mem_cons] at permitted
    exact ih (.perform request permitted.1 h) permitted.2

theorem reachable_foldl_perform (requests : List Request) (h : kernel.Reachable) :
    (requests.foldl perform kernel).Reachable :=
  h.foldl_perform fun _ _ => trivial

/-- A model that is registered stays registered. -/
theorem isSome_object?_perform (h : (kernel.object? model).isSome = true) (request : Request) :
    ((kernel.perform request).object? model).isSome = true := by
  rw [isSome_object?_iff] at h ⊢
  rw [length_objects_perform]
  exact Nat.lt_add_right _ h

/-- A boot that meets an idle machine never finds a model running. -/
theorem Books.boot_ne_alreadyRunning (h : Books kernel) (active : List ModelId) (model : ModelId) :
    (kernel.boot active).1 ≠ .error (.alreadyRunning model) := by
  unfold Kernel.boot
  split
  · simp
  · next unbooted =>
    split
    · next error found =>
      obtain ⟨first, -, refused⟩ := List.exists_of_findSome?_eq_some found
      intro answer
      obtain rfl : error = .alreadyRunning model := by simpa using answer
      have idle := h.not_running (by simpa using unbooted) first
      unfold startError? at refused
      split at refused
      · cases refused
      · next object registered =>
        have stopped : object.isRunning = false := by
          simpa [arch?, registered, CoreObject.isRunning] using idle
        simp [stopped] at refused
    · simp

/-- A quantum takes no timeline into use, for the objects that it takes along have theirs. -/
theorem Arranged.isSome_tick?_runQuantum (h : Arranged kernel) (ticks : Nat) (fpFraction : Float)
    (timeline : Timeline) :
    ((kernel.runQuantum ticks fpFraction).2.clocks.tick? timeline).isSome =
      (kernel.clocks.tick? timeline).isSome := by
  let P (next : Kernel) : Prop := next.places = kernel.places ∧
    ∀ timeline, (next.clocks.tick? timeline).isSome = (kernel.clocks.tick? timeline).isSome
  have step {next : Kernel} (model : ModelId) (before : P next) :
      P (next.runModel ticks fpFraction model).2 := by
    refine ⟨(places_runModel next ticks fpFraction model).trans before.1, ?_⟩
    intro timeline
    rcases next.clocks_runModel ticks fpFraction model with
      same | ⟨object, found, isolated, advanced⟩
    · rw [same]
      exact before.2 timeline
    · rw [advanced, Clocks.tick?_advance isolated]
      split
      · next own =>
        have stands : kernel.timeline? model = some timeline := by
          rw [timeline?_eq_places, ← before.1, ← timeline?_eq_places, timeline?, found, own]
          rfl
        simp [h.inUse model timeline stands]
      · exact before.2 timeline
  let shuffled := Random.shuffle kernel.running kernel.random
  have start : P { kernel with random := shuffled.2 } := ⟨rfl, fun _ => rfl⟩
  have ran := (runModels_of_runModel (P := P) step shuffled.1 start).2 timeline
  simpa only [runQuantum, Clocks.tick?_advanceShared, Option.isSome_map] using ran

/-- After any requests to a new kernel its objects are arranged, the shared timeline is in use, the
registered models are those with the numbers below the next one, nothing executes before boot, so
that no boot finds a model running, a quantum takes no timeline into use, and no request takes one
out of use or sets it back. -/
theorem arrangement_of_requests (seed : UInt64) (ruby : Bool) (requests : List Request) :
    let kernel := requests.foldl perform (create seed ruby)
    kernel.Arranged ∧ kernel.clocks.tick? .shared = some kernel.tick ∧
      (∀ descriptor, (kernel.instantiate descriptor).1 =
        ⟨requests.countP (·.isInstantiate)⟩) ∧
      (∀ model, (kernel.object? model).isSome = true ↔
        model.raw < requests.countP (·.isInstantiate)) ∧
      (kernel.booted = false → ∀ model, kernel.isRunning model = false) ∧
      (∀ active model, (kernel.boot active).1 ≠ .error (.alreadyRunning model)) ∧
      (∀ ticks fpFraction timeline,
        ((kernel.runQuantum ticks fpFraction).2.clocks.tick? timeline).isSome =
          (kernel.clocks.tick? timeline).isSome) ∧
      ∀ request timeline tick, kernel.clocks.tick? timeline = some tick →
        ∃ later, (kernel.perform request).clocks.tick? timeline = some later ∧ tick ≤ later := by
  intro kernel
  have reachable : kernel.Reachable := reachable_foldl_perform requests (.create seed ruby)
  have length : kernel.objects.length = requests.countP (·.isInstantiate) :=
    (length_objects_foldl_perform requests _).trans (Nat.zero_add _)
  refine ⟨reachable.arranged, Clocks.tick?_of_isShared rfl, ?_, ?_, ?_, ?_, ?_, ?_⟩
  · intro descriptor
    exact congrArg ModelId.mk length
  · intro model
    rw [isSome_object?_iff, length]
  · intro unbooted model
    exact isRunning_eq_false_iff.mpr (reachable.books.not_running unbooted model)
  · exact reachable.books.boot_ne_alreadyRunning
  · exact reachable.arranged.isSome_tick?_runQuantum
  · exact kernel.clocks_precedes_perform

end Polycore.Kernel
