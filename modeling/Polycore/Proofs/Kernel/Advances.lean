import Mathlib.Data.List.Nodup
import Polycore.Proofs.Kernel.Conservation
import Polycore.Proofs.Kernel.Seeds

/-!
# The advance of each model

In a quantum every model that executes runs once, for an advance of its own: exactly the quantum on
the shared timeline, up to a sixteenth longer on an isolated one. `Ran` says, model by model and
timeline by timeline, what became of a kernel when some models ran, whatever their order and their
draws. It goes from one model to a list of distinct ones (`Ran.cons`), since an isolated timeline
serves one object. The main statement is `each_runs_once`.
-/

namespace Polycore.Kernel

variable {kernel middle next : Kernel} {model other : ModelId} {models : List ModelId}
  {timeline : Timeline} {ticks : Nat} {fpFraction : Float} {advance : ModelId → Nat}

/-! ## One model runs -/

/-- The advances that a quantum allows a model on a timeline. -/
def Allowed (ticks : Nat) (timeline : Timeline) (advance : Nat) : Prop :=
  if timeline.isShared then advance = ticks else ticks ≤ advance ∧ advance ≤ ticks + ticks / 16

theorem allowed_drawAdvance (ticks : Nat) (timeline : Timeline) (random : Random.Stream) :
    Allowed ticks timeline (drawAdvance ticks timeline random).1 := by
  unfold Allowed
  split
  · next shared => simp [drawAdvance, shared]
  · next isolated =>
    have drawn := Random.Stream.below64_lt (Nat.succ_pos (ticks / 16)) random
    rw [drawAdvance, if_neg isolated]
    exact ⟨Nat.le_add_right _ _, Nat.add_le_add_left (Nat.le_of_lt_succ drawn) ticks⟩

theorem Allowed.le {advance : Nat} (h : Allowed ticks timeline advance) : ticks ≤ advance := by
  unfold Allowed at h
  split at h
  · exact Nat.le_of_eq h.symm
  · exact h.1

theorem Allowed.le_add {advance : Nat} (h : Allowed ticks timeline advance) :
    advance ≤ ticks + ticks / 16 := by
  unfold Allowed at h
  split at h
  · exact h ▸ Nat.le_add_right _ _
  · exact h.2

/-- What became of a kernel when some models ran, each for its advance. -/
structure Ran (fpFraction : Float) (models : List ModelId) (advance : ModelId → Nat)
    (kernel next : Kernel) : Prop where
  objects : ∀ model, next.object? model =
    if model ∈ models then
      (kernel.object? model).map (·.retire (kernel.due (advance model) fpFraction model))
    else kernel.object? model
  /-- a model takes its isolated timeline along -/
  own : ∀ model ∈ models, ∀ timeline, kernel.timeline? model = some timeline →
    timeline.isShared = false →
      next.clocks.tick? timeline = some ((kernel.clocks.tick? timeline).getD 0 + advance model)
  /-- a timeline stands still if no model takes it along -/
  still : ∀ timeline, (timeline.isShared = false →
      ∀ model ∈ models, kernel.timeline? model ≠ some timeline) →
    next.clocks.tick? timeline = kernel.clocks.tick? timeline
  rest : next =
    { kernel with objects := next.objects, clocks := next.clocks, random := next.random }

theorem object?_runModel (kernel : Kernel) (ticks : Nat) (fpFraction : Float)
    (model other : ModelId) :
    (kernel.runModel ticks fpFraction model).2.object? other =
      if other = model then
        (kernel.object? other).map (·.retire (kernel.runModel ticks fpFraction model).1)
      else kernel.object? other := by
  unfold runModel
  split
  · next unknown =>
    split
    · next same => rw [same, unknown]; rfl
    · rfl
  · exact object?_modifyObject kernel model other _

theorem tick?_runModel {object : CoreObject} (found : kernel.object? model = some object)
    (ticks : Nat) (fpFraction : Float) (timeline : Timeline) :
    (kernel.runModel ticks fpFraction model).2.clocks.tick? timeline =
      if timeline.isShared = false ∧ timeline = object.timeline then
        some ((kernel.clocks.tick? timeline).getD 0 +
          (drawAdvance ticks timeline kernel.random).1)
      else kernel.clocks.tick? timeline := by
  rw [runModel, found]
  dsimp only
  split
  · next shared =>
    rw [if_neg]
    rintro ⟨isolated, rfl⟩
    cases shared.symm.trans isolated
  · next isolated =>
    rw [Bool.not_eq_true] at isolated
    rw [Clocks.tick?_advance isolated]
    by_cases same : timeline = object.timeline
    · simp [same, isolated]
    · simp [same]

/-- A model that runs has an advance, and retires what is due from it in that time. -/
theorem ran_runModel (registered : (kernel.object? model).isSome = true) (ticks : Nat)
    (fpFraction : Float) :
    ∃ advance, (∀ timeline, kernel.timeline? model = some timeline →
        Allowed ticks timeline advance) ∧
      (kernel.runModel ticks fpFraction model).1 = kernel.due advance fpFraction model ∧
      Ran fpFraction [model] (fun _ => advance) kernel
        (kernel.runModel ticks fpFraction model).2 := by
  obtain ⟨object, found⟩ := Option.isSome_iff_exists.mp registered
  have stands : kernel.timeline? model = some object.timeline := by rw [timeline?, found]; rfl
  let advance := (drawAdvance ticks object.timeline kernel.random).1
  have due : (kernel.runModel ticks fpFraction model).1 = kernel.due advance fpFraction model := by
    rw [Kernel.due, runModel, found]
    rfl
  refine ⟨advance, ?_, due, ?_, ?_, ?_, ?_⟩
  · intro timeline known
    obtain rfl := Option.some.inj (stands.symm.trans known)
    exact allowed_drawAdvance ticks object.timeline kernel.random
  · intro other
    rw [object?_runModel, due]
    simp only [List.mem_singleton]
    split
    · next same => rw [same]
    · rfl
  · intro other mem timeline known isolated
    rw [List.mem_singleton.mp mem, stands, Option.some.injEq] at known
    obtain rfl := known
    rw [tick?_runModel found, if_pos ⟨isolated, rfl⟩]
  · intro timeline alone
    rw [tick?_runModel found, if_neg]
    rintro ⟨isolated, rfl⟩
    exact alone isolated model (List.mem_singleton_self model) stands
  · rw [runModel, found]
    rfl

/-! ## Models run one after the other -/

/-- An isolated timeline serves at most one object. -/
def Alone (kernel : Kernel) : Prop :=
  ∀ first second timeline, kernel.timeline? first = some timeline →
    kernel.timeline? second = some timeline → timeline.isShared = false → first = second

namespace Ran

theorem timeline? (h : Ran fpFraction models advance kernel next) (model : ModelId) :
    next.timeline? model = kernel.timeline? model := by
  rw [Kernel.timeline?, h.objects, Kernel.timeline?]
  split
  · rw [Option.map_map]
    rfl
  · rfl

theorem due (h : Ran fpFraction models advance kernel next) : next.due = kernel.due := by
  funext ticks fpFraction model
  rw [Kernel.due, h.objects, Kernel.due]
  split
  · rw [Option.map_map]
    rfl
  · rfl

theorem isRunning (h : Ran fpFraction models advance kernel next) (model : ModelId) :
    next.isRunning model = kernel.isRunning model := by
  rw [Kernel.isRunning, arch?, h.objects, Kernel.isRunning, arch?]
  split
  · cases kernel.object? model with
    | none => rfl
    | some object => exact Option.isSome_map
  · rfl

theorem tick (h : Ran fpFraction models advance kernel next) : next.tick = kernel.tick := by
  have same := h.still .shared nofun
  rwa [Clocks.tick?_of_isShared rfl, Clocks.tick?_of_isShared rfl, Option.some.injEq] at same

theorem isSome_object? (h : Ran fpFraction models advance kernel next) (model : ModelId) :
    (next.object? model).isSome = (kernel.object? model).isSome := by
  rw [h.objects]
  split
  · exact Option.isSome_map
  · rfl

theorem alone (h : Ran fpFraction models advance kernel next) (alone : kernel.Alone) :
    next.Alone := by
  simpa only [Alone, h.timeline?] using alone

theorem nil (fpFraction : Float) (advance : ModelId → Nat) (kernel : Kernel) :
    Ran fpFraction [] advance kernel kernel where
  objects _ := rfl
  own := nofun
  still _ _ := rfl
  rest := rfl

/-- A model runs before others on other timelines. -/
theorem cons {first : Nat} (ran : Ran fpFraction [model] (fun _ => first) kernel middle)
    (others : Ran fpFraction models advance middle next) (alone : kernel.Alone)
    (last : model ∉ models) :
    Ran fpFraction (model :: models) (Function.update advance model first) kernel next := by
  have different {later : ModelId} (mem : later ∈ models) : later ≠ model :=
    fun same => last (same ▸ mem)
  have apart {timeline : Timeline} (stands : kernel.timeline? model = some timeline)
      (isolated : timeline.isShared = false) :
      ∀ later ∈ models, kernel.timeline? later ≠ some timeline :=
    fun later mem same => different mem (alone later model timeline same stands isolated)
  refine ⟨fun other => ?_, ?_, fun timeline unused => ?_, others.rest.trans (by rw [ran.rest])⟩
  · by_cases same : other = model
    · rw [others.objects, same, if_neg last, ran.objects]
      simp
    · rw [others.objects, ran.objects, ran.due]
      simp [same]
  · refine List.forall_mem_cons.mpr ⟨fun timeline stands isolated => ?_,
      fun later mem timeline stands isolated => ?_⟩
    · have passed : ∀ later ∈ models, middle.timeline? later ≠ some timeline := by
        simpa only [ran.timeline?] using apart stands isolated
      rw [others.still timeline fun _ => passed,
        ran.own model List.mem_cons_self timeline stands isolated, Function.update_self]
    · have unused : kernel.timeline? model ≠ some timeline :=
        fun same => apart same isolated later mem stands
      rw [others.own later mem timeline (ran.timeline? later ▸ stands) isolated,
        ran.still timeline fun _ => List.forall_mem_singleton.mpr unused,
        Function.update_of_ne (different mem)]
  · rw [others.still timeline, ran.still timeline]
    · exact fun isolated => List.forall_mem_singleton.mpr
        ((List.forall_mem_cons.mp (unused isolated)).1)
    · intro isolated later mem
      rw [ran.timeline? later]
      exact (List.forall_mem_cons.mp (unused isolated)).2 later mem

end Ran

/-- Distinct models that run one after the other each have an advance, and together they retire what
is due from each. -/
theorem ran_runModels (alone : kernel.Alone)
    (registered : ∀ model ∈ models, (kernel.object? model).isSome = true)
    (distinct : models.Nodup) (ticks : Nat) (fpFraction : Float) :
    ∃ advance : ModelId → Nat,
      (∀ model ∈ models, ∀ timeline, kernel.timeline? model = some timeline →
        Allowed ticks timeline (advance model)) ∧
      (runModels ticks fpFraction models kernel).1 =
        (models.map fun model => kernel.due (advance model) fpFraction model).sum ∧
      Ran fpFraction models advance kernel (runModels ticks fpFraction models kernel).2 := by
  induction models generalizing kernel with
  | nil => exact ⟨fun _ => 0, nofun, rfl, .nil fpFraction _ kernel⟩
  | cons model rest ih =>
    obtain ⟨last, distinct⟩ := List.nodup_cons.mp distinct
    rw [List.forall_mem_cons] at registered
    obtain ⟨first, allowed, due, ran⟩ := ran_runModel registered.1 ticks fpFraction
    have registeredRest : ∀ later ∈ rest,
        ((kernel.runModel ticks fpFraction model).2.object? later).isSome = true := by
      simpa only [ran.isSome_object?] using registered.2
    obtain ⟨advance, allowedRest, dueRest, ranRest⟩ := ih (ran.alone alone) registeredRest distinct
    have different {later : ModelId} (mem : later ∈ rest) : later ≠ model :=
      fun same => last (same ▸ mem)
    refine ⟨Function.update advance model first, ?_, ?_, ran.cons ranRest alone last⟩
    · refine List.forall_mem_cons.mpr ⟨by simpa using allowed, fun later mem timeline stands => ?_⟩
      rw [Function.update_of_ne (different mem)]
      exact allowedRest later mem timeline (ran.timeline? later ▸ stands)
    · have rest : rest.map (fun later => kernel.due
            (Function.update advance model first later) fpFraction later) =
          rest.map fun later => kernel.due (advance later) fpFraction later :=
        List.map_congr_left fun later mem => by rw [Function.update_of_ne (different mem)]
      rw [List.map_cons, List.sum_cons, rest, Function.update_self, ← due, ← ran.due, ← dueRest]
      rfl

/-! ## A quantum -/

/-- A quantum in which the models run in a given order and draw from a given stream. -/
def quantumIn (ticks : Nat) (fpFraction : Float) (order : List ModelId) (random : Random.Stream)
    (kernel : Kernel) : QuantumStats × Kernel :=
  let (instructions, ran) := runModels ticks fpFraction order { kernel with random }
  ({ instructions, globalTick := ran.tick + ticks },
    { ran with clocks := ran.clocks.advanceShared ticks })

/-- Every quantum runs the models that execute in some order. -/
theorem exists_runQuantum_eq (kernel : Kernel) (ticks : Nat) (fpFraction : Float) :
    ∃ order random, order.Perm kernel.running ∧
      kernel.runQuantum ticks fpFraction = kernel.quantumIn ticks fpFraction order random :=
  ⟨_, _, Random.shuffle_perm kernel.running kernel.random, rfl⟩

theorem nodup_running (kernel : Kernel) : kernel.running.Nodup := by
  refine List.Nodup.filterMap (fun first second model hfirst hsecond => ?_) List.nodup_range
  simp only [Option.mem_def, Option.ite_none_right_eq_some, Option.some.injEq] at hfirst hsecond
  exact congrArg ModelId.raw (hfirst.2.trans hsecond.2.symm)

theorem exists_ran_quantumIn (arranged : kernel.Arranged) {order : List ModelId}
    (perm : order.Perm kernel.running) (random : Random.Stream) (ticks : Nat)
    (fpFraction : Float) :
    ∃ advance ran, Ran fpFraction order advance kernel ran ∧
      (∀ model ∈ order, ∀ timeline, kernel.timeline? model = some timeline →
        Allowed ticks timeline (advance model)) ∧
      kernel.quantumIn ticks fpFraction order random =
        ({ instructions :=
             (kernel.running.map fun model => kernel.due (advance model) fpFraction model).sum
           globalTick := kernel.tick + ticks },
          { ran with clocks := ran.clocks.advanceShared ticks }) := by
  let drawn : Kernel := { kernel with random }
  have registered : ∀ model ∈ order, (drawn.object? model).isSome = true :=
    fun model mem => isSome_object?_of_isRunning (mem_running.mp (perm.subset mem))
  have distinct : order.Nodup := perm.nodup_iff.mpr kernel.nodup_running
  have alone : drawn.Alone := arranged.alone
  obtain ⟨advance, allowed, due, ran⟩ := ran_runModels alone registered distinct ticks fpFraction
  refine ⟨advance, _, ⟨ran.objects, ran.own, ran.still, ran.rest⟩, allowed, Prod.ext ?_ rfl⟩
  have tick := tick_runModels ticks fpFraction order drawn
  change QuantumStats.mk _ (Kernel.tick _ + ticks) = _
  rw [due, tick, ← (perm.map _).sum_eq]
  rfl

theorem Arranged.exists_tick? (arranged : kernel.Arranged)
    (stands : kernel.timeline? model = some timeline) :
    ∃ tick, kernel.clocks.tick? timeline = some tick :=
  Option.isSome_iff_exists.mp (arranged.inUse model timeline stands)

/-- Whatever was asked of a kernel before, a quantum moves the shared timeline by exactly its ticks
and runs every model that executes once, in whichever order and with whatever draws. Each has an
advance that its timeline allows: the model's state and its object count the same new instructions,
those that fit in the advance, the program counter moves past them, and an isolated timeline moves
by the advance. The statistics give the sum of these instructions. Idle objects, other isolated
timelines, who executes, who stands on which timeline, the count of swaps and all else are as
before. -/
theorem each_runs_once (seed : UInt64) (ruby : Bool) (requests : List Request) (ticks : Nat)
    (fpFraction : Float) :
    let kernel := requests.foldl perform (create seed ruby)
    (∃ order random, order.Perm kernel.running ∧
      kernel.runQuantum ticks fpFraction = kernel.quantumIn ticks fpFraction order random) ∧
    ∀ order random, order.Perm kernel.running →
      let stats := (kernel.quantumIn ticks fpFraction order random).1
      let next := (kernel.quantumIn ticks fpFraction order random).2
      ∃ advance work : ModelId → Nat,
        (∀ model object state, kernel.object? model = some object → object.arch = some state →
          Allowed ticks object.timeline (advance model) ∧
          work model = object.descriptor.instructionsIn (advance model) fpFraction ∧
          next.object? model = some { object with
            arch := some
              { pc := state.pc + .ofNat (4 * work model)
                instructions := state.instructions + work model }
            retired := object.retired + work model } ∧
          (object.timeline.isShared = false →
            ∃ tick, kernel.clocks.tick? object.timeline = some tick ∧
              next.clocks.tick? object.timeline = some (tick + advance model))) ∧
        (∀ model, kernel.isRunning model = false → next.object? model = kernel.object? model) ∧
        (∀ timeline, timeline.isShared = false →
          (∀ model, kernel.isRunning model = true → kernel.timeline? model ≠ some timeline) →
          next.clocks.tick? timeline = kernel.clocks.tick? timeline) ∧
        next.tick = kernel.tick + ticks ∧
        (∀ model, next.isRunning model = kernel.isRunning model ∧
          next.timeline? model = kernel.timeline? model) ∧
        next = { kernel with
          objects := next.objects, clocks := next.clocks, random := next.random } ∧
        stats =
          { instructions := (kernel.running.map work).sum, globalTick := kernel.tick + ticks } := by
  intro kernel
  refine ⟨kernel.exists_runQuantum_eq ticks fpFraction, fun order random perm => ?_⟩
  have arranged : kernel.Arranged := (reachable_foldl_perform requests (.create seed ruby)).arranged
  obtain ⟨advance, ran, ranAll, allowed, outcome⟩ :=
    exists_ran_quantumIn arranged perm random ticks fpFraction
  have runs {model : ModelId} : model ∈ order ↔ kernel.isRunning model = true :=
    perm.mem_iff.trans mem_running
  rw [outcome]
  refine ⟨advance, fun model => kernel.due (advance model) fpFraction model, ?_, ?_, ?_, ?_, ?_, ?_,
    rfl⟩
  · intro model object state found executes
    have mem : model ∈ order :=
      runs.mpr (isRunning_iff.mpr ⟨state, arch?_eq_some_iff.mpr ⟨object, found, executes⟩⟩)
    have stands : kernel.timeline? model = some object.timeline := by rw [timeline?, found]; rfl
    have work : kernel.due (advance model) fpFraction model =
        object.descriptor.instructionsIn (advance model) fpFraction := by rw [due, found]; rfl
    refine ⟨allowed model mem _ stands, work, ?_, fun isolated => ?_⟩
    · refine (ranAll.objects model).trans ?_
      rw [if_pos mem, found, Option.map_some, CoreObject.retire, executes]
      rfl
    · obtain ⟨tick, known⟩ := arranged.exists_tick? stands
      refine ⟨tick, known, ?_⟩
      rw [Clocks.tick?_advanceShared, ranAll.own model mem _ stands isolated, known]
      simp [isolated]
  · intro model idle
    refine (ranAll.objects model).trans (if_neg fun mem => ?_)
    cases idle.symm.trans (runs.mp mem)
  · intro timeline isolated unused
    have same := ranAll.still timeline fun _ model mem => unused model (runs.mp mem)
    rw [Clocks.tick?_advanceShared, same]
    simp [isolated]
  · exact congrArg (· + ticks) ranAll.tick
  · exact fun model => ⟨ranAll.isRunning model, ranAll.timeline? model⟩
  · exact congrArg (fun ran : Kernel => { ran with clocks := ran.clocks.advanceShared ticks })
      ranAll.rest

end Polycore.Kernel
