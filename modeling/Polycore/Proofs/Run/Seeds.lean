import Mathlib.Data.List.Infix
import Polycore.Proofs.Kernel.Seeds
import Polycore.Proofs.Processor.Machines
import Polycore.Proofs.Run.Outcomes

/-!
# Runs that differ in the seed

A machine without accelerated cores leaves all objects on the shared timeline, so two simulators
that differ in the seed alone stay in step to the end (`Simulator.Twins`): their runs come out
alike, with reports that differ in the seed alone. The main statement is
`Simulator.seed_has_no_influence`.
-/

namespace Polycore

variable {kernel twin : Kernel}

/-! ## Moves and handlers -/

/-- A request that does not see the seed gets the same answer from twins. -/
theorem Kernel.Twins.outcome (h : kernel.Twins twin)
    (request : Kernel → Processor.Outcome Machine Kernel)
    (along : ∀ kernel, request kernel.seedless =
      Prod.map id (Prod.map id Kernel.seedless) (request kernel))
    (shared : (request kernel).2.2.OnShared) :
    ∃ answer machine next next', request kernel = (answer, machine, next) ∧
      request twin = (answer, machine, next') ∧ next.Twins next' := by
  have same := (along twin).symm.trans ((congrArg request h.same).trans (along kernel))
  rcases left : request kernel with ⟨answer, machine, next⟩
  rcases right : request twin with ⟨answer', machine', next'⟩
  rw [left, right] at same
  simp only [Prod.map_apply, id, Prod.mk.injEq] at same
  obtain ⟨rfl, rfl, same⟩ := same
  rw [left] at shared
  exact ⟨answer', machine', next, next', rfl, rfl, same, shared⟩

theorem Move.perform_seedless (move : Move) (machine : Machine) (kernel : Kernel) :
    move.perform machine kernel.seedless =
      Prod.map id (Prod.map id Kernel.seedless) (move.perform machine kernel) := by
  have swap (pairs : List (ModelId × ModelId)) (kernel : Kernel) :
      Board.swap pairs kernel.seedless = Prod.map id Kernel.seedless (Board.swap pairs kernel) :=
    kernel.swap_seedless pairs
  cases move with
  | switchTo name => exact machine.switchTo_along swap name kernel
  | toggle => exact machine.switchTo_along swap "" kernel
  | armSwap reason => rfl

/-- Without accelerated cores a machine joins a board without putting a model on a timeline. -/
theorem Machine.places_incorporate {machine : Machine}
    (plain : machine.processor.hasAcceleratedCores = false) (kernel : Kernel) :
    (machine.incorporate kernel).2.2.places = kernel.places := by
  rcases joining : machine.processor.joining with error | bindings
  · rw [incorporate_of_joining_error joining]
  · have isolated := (Processor.of_joining_eq_ok joining).2
    have unbound : bindings = [] := by
      have none : machine.processor.allCores.filter (·.accelerated) = [] := by
        rw [List.filter_eq_nil_iff]
        simpa [Processor.hasAcceleratedCores] using plain
      rw [Processor.isolatedTimelines, none] at isolated
      cases isolated
      rfl
    subst unbound
    rw [incorporate_of_granted joining rfl]
    cases machine <;> rfl

theorem Kernel.Twins.incorporate (h : kernel.Twins twin) {machine : Machine}
    (plain : machine.processor.hasAcceleratedCores = false) :
    ∃ answer machine' next next', machine.incorporate kernel = (answer, machine', next) ∧
      machine.incorporate twin = (answer, machine', next') ∧ next.Twins next' := by
  have along := machine.incorporate_along (f := Kernel.seedless) (fun _ => rfl)
    (fun model timeline kernel => Kernel.aside_seedless.assignTimeline kernel model timeline)
    (fun _ _ => rfl) fun _ => rfl
  exact h.outcome machine.incorporate along
    (h.shared.of_places (Machine.places_incorporate plain kernel))

theorem Kernel.Twins.move (h : kernel.Twins twin) (move : Move) (machine : Machine) :
    ∃ answer machine' next next', move.perform machine kernel = (answer, machine', next) ∧
      move.perform machine twin = (answer, machine', next') ∧ next.Twins next' := by
  have places : (move.perform machine kernel).2.2.places = kernel.places := by
    rcases Session.kernel_move move machine kernel with same | ⟨pairs, swapped⟩ | ⟨reason, armed⟩
    · rw [same]
    · rw [swapped]
      exact kernel.places_perform rfl
    · rw [armed]
      exact kernel.places_perform rfl
  exact h.outcome (move.perform machine) (move.perform_seedless machine) (h.shared.of_places places)

namespace Handler

/-- Handlers that do the same on machines whose kernels differ in the seed alone. -/
inductive Same : Handler → Handler → Prop where
  | always (action : Action) : Same (.always action) (.always action)
  | finish (result : Except RunError Action) {next next' : Handler} (h : Same next next') :
    Same (.finish result next) (.finish result next')
  | make (move : Move) {next next' : Except ProcessorError Unit → Handler}
    (h : ∀ outcome, Same (next outcome) (next' outcome)) : Same (.make move next) (.make move next')
  | look {next next' : Machine → Kernel → Handler}
    (h : ∀ (machine : Machine) (kernel twin : Kernel), kernel.Twins twin →
      Same (next machine kernel) (next' machine twin)) : Same (.look next) (.look next')

/-- A handler that switches through some names does not look at the kernel. -/
theorem same_switchThrough (names : List String) :
    Same (switchThrough names) (switchThrough names) := by
  induction names with
  | nil => exact .always .stop
  | cons name names ih => exact .make (.switchTo name) fun outcome => .finish _ ih

end Handler

/-- Firings that end alike: in the same way, with handlers that do the same from then on. -/
structure Fired.Alike (fired fired' : Fired) : Prop where
  result : fired'.result = fired.result
  handler : fired.handler.Same fired'.handler
  machine : fired'.machine = fired.machine
  kernel : fired.kernel.Twins fired'.kernel

theorem Handler.Same.fire {handler handler' : Handler} (h : handler.Same handler')
    (machine : Machine) (twins : kernel.Twins twin) :
    Fired.Alike (handler.fire machine kernel) (handler'.fire machine twin) := by
  induction h generalizing machine kernel twin with
  | always action => exact ⟨rfl, .always action, rfl, twins⟩
  | finish result next => exact ⟨rfl, next, rfl, twins⟩
  | make move _ ih =>
    obtain ⟨answer, machine', next, next', made, made', twins⟩ := twins.move move machine
    simp only [Handler.fire, made, made']
    exact ih answer machine' twins
  | look _ ih => exact ih machine kernel twin twins machine twins

namespace Simulator

variable {sim sim' : Simulator} {seed : UInt64}

/-! ## Firings -/

/-- Two simulators that differ in the seed alone, with all objects on the shared timeline. -/
structure Twins (seed : UInt64) (sim sim' : Simulator) : Prop where
  machine : sim'.machine = sim.machine
  kernel : sim.kernel.Twins sim'.kernel
  workload : sim'.workload = sim.workload
  config : sim'.config = { sim.config with seed }
  handlers : ∀ trigger, Option.Rel Handler.Same (sim.handlers trigger) (sim'.handlers trigger)
  events : sim'.events = sim.events

/-- How a step of two simulators comes out that stay twins: with the same answer. -/
abbrev TwinSteps (seed : UInt64) {α : Type} :
    Except RunError α × Simulator → Except RunError α × Simulator → Prop :=
  Alike (Twins seed) (fun _ => False) fun _ _ => False

namespace Twins

theorem handled (h : Twins seed sim sim') (trigger : Trigger) {fired fired' : Fired}
    (alike : fired.Alike fired') :
    Twins seed (sim.handled trigger fired) (sim'.handled trigger fired') where
  machine := alike.machine
  kernel := alike.kernel
  workload := h.workload
  config := h.config
  handlers other := by
    simp only [Simulator.handled]
    split
    · exact .some alike.handler
    · exact h.handlers other
  events := h.events

theorem handle (h : Twins seed sim sim') (trigger : Trigger) :
    TwinSteps seed (sim.handle trigger) (sim'.handle trigger) := by
  have same := h.handlers trigger
  cases offered : sim.handlers trigger with
  | none =>
    cases offered' : sim'.handlers trigger with
    | none =>
      rw [handle_of_none offered, handle_of_none offered']
      exact .same h
    | some handler' =>
      rw [offered, offered'] at same
      cases same
  | some handler =>
    cases offered' : sim'.handlers trigger with
    | none =>
      rw [offered, offered'] at same
      cases same
    | some handler' =>
      rw [offered, offered'] at same
      cases same with | some same =>
      have fired := same.fire sim.machine h.kernel
      rw [handle_of_some offered, handle_of_some offered', h.machine, fired.result]
      exact .same (h.handled trigger fired)

theorem record (h : Twins seed sim sim') (tick : Nat) (trigger : Trigger) (action : Action) :
    Twins seed (sim.record tick trigger action) (sim'.record tick trigger action) where
  machine := h.machine
  kernel := h.kernel
  workload := h.workload
  config := h.config
  handlers := h.handlers
  events := by
    have total := h.kernel.view Kernel.totalInstructions fun _ => rfl
    simp only [Simulator.record, activeCores, h.machine, h.events, total]

theorem fire (h : Twins seed sim sim') (trigger : Trigger) :
    TwinSteps seed (sim.fire trigger) (sim'.fire trigger) := by
  let synced (sim : Simulator) : Simulator := { sim with kernel := sim.kernel.synchronize.2 }
  have twins : Twins seed (synced sim) (synced sim') :=
    { h with kernel := h.kernel.perform_of_unplacing .synchronize rfl }
  have tick := h.kernel.view (fun kernel => kernel.clocks.horizon) fun _ => rfl
  have handled := twins.handle trigger
  generalize left : (synced sim).handle trigger = outcome,
    right : (synced sim').handle trigger = outcome' at handled
  cases handled with
  | @same answer next next' h =>
    rcases answer with error | action
    · rw [fire_of_handle_eq_error left, fire_of_handle_eq_error right]
      exact .same h
    · rw [fire_of_handle_eq_ok left, fire_of_handle_eq_ok right, tick]
      exact .same (h.record _ trigger action)
  | failed => contradiction

theorem runQuantum (h : Twins seed sim sim') (ticks : Nat) :
    Twins seed (sim.runQuantum ticks) (sim'.runQuantum ticks) where
  machine := h.machine
  kernel := by
    have ran := h.kernel.perform_of_unplacing
      (.runQuantum ticks sim.workload.fpFraction) rfl
    simp only [Simulator.runQuantum, h.workload]
    exact ran
  workload := h.workload
  config := h.config
  handlers := h.handlers
  events := h.events

theorem agree (h : Twins seed sim sim') :
    sim'.kernel.tick = sim.kernel.tick ∧
      sim'.kernel.totalInstructions = sim.kernel.totalInstructions ∧
      sim'.workload.instructions = sim.workload.instructions :=
  ⟨h.kernel.view Kernel.tick fun _ => rfl, h.kernel.view Kernel.totalInstructions fun _ => rfl,
    congrArg Workload.instructions h.workload⟩

/-- Twins stay twins to the end of a run. -/
theorem loop (h : Twins seed sim sim') (pace : Pace) (pending : List GuestEvent) :
    TwinSteps seed (loop pace pending sim) (loop pace pending sim') :=
  loop_alike (fun trigger h => h.fire trigger) (fun _ => id) agree
    (fun ticks h => h.runQuantum ticks) (fun _ => id) pace pending h

/-- The reports of twins differ in the seed alone. -/
theorem report (h : Twins seed sim sim') (reason : ExitReason) :
    sim'.report reason = { sim.report reason with seed } := by
  have seen := h.kernel.view (fun kernel => ({ sim with kernel } : Simulator).report reason)
    fun _ => rfl
  simp only [Simulator.report, h.machine, h.workload, h.events, h.config] at seen ⊢
  exact congrArg (fun report : RunReport => { report with seed }) seen

/-- A start assigns no timeline if no core is accelerated. -/
theorem start (h : Twins seed sim sim')
    (plain : sim.machine.processor.hasAcceleratedCores = false) :
    TwinSteps seed sim.start sim'.start := by
  have paced : sim'.config.pace = sim.config.pace := by
    rw [h.config]
    rfl
  have valid : sim'.workload.error? = sim.workload.error? := congrArg Workload.error? h.workload
  obtain ⟨answer, machine, kernel, kernel', left, right, twins⟩ := h.kernel.incorporate plain
  rw [← h.machine] at right
  have joined : Twins seed { sim with machine, kernel } { sim' with machine, kernel := kernel' } :=
    { h with machine := rfl, kernel := twins }
  have booted := twins.perform_of_unplacing (.boot machine.processor.models) rfl
  have answered := Kernel.Response.settled.inj (twins.answer (.boot machine.processor.models))
  simp only [Kernel.perform] at booted
  unfold Simulator.start
  rw [paced, valid]
  cases sim.config.pace with
  | error => exact .same h
  | ok pace =>
    cases sim.workload.error? with
    | some => exact .same h
    | none =>
      simp only [left, right]
      cases answer with
      | error => exact .same joined
      | ok =>
        dsimp only
        generalize kernel.boot machine.processor.models = outcome,
          kernel'.boot machine.processor.models = outcome' at booted answered ⊢
        rcases outcome with ⟨answer, kernel⟩
        rcases outcome' with ⟨answer', kernel'⟩
        obtain rfl : answer' = answer := answered
        cases answer' with
        | error => exact .same { h with machine := rfl, kernel := booted }
        | ok => exact .same { h with machine := rfl, kernel := booted }

theorem run (h : Twins seed sim sim') (plain : sim.machine.processor.hasAcceleratedCores = false) :
    sim'.run.1 = sim.run.1.map fun report => { report with seed } := by
  have started := h.start plain
  unfold Simulator.run
  generalize sim.start = outcome, sim'.start = outcome' at started
  cases started with
  | failed => contradiction
  | @same answer next next' h =>
    cases answer with
    | error => rfl
    | ok pace =>
      dsimp only
      rw [h.workload]
      have ended := h.loop pace next.workload.schedule
      generalize Simulator.loop pace _ next = outcome,
        Simulator.loop pace _ next' = outcome' at ended
      cases ended with
      | failed => contradiction
      | @same answer final final' h =>
        cases answer with
        | error => rfl
        | ok reason => exact congrArg Except.ok (h.report reason)

end Twins

/-- The seed has no influence as long as no object stands on an isolated timeline. Two new kernels
with different seeds answer all requests alike, and after every one of them they differ in the seed
and in what was drawn with it alone. A machine without accelerated cores runs on either of them with
the same result, whatever the seed that the report is to name, if its handlers do the same. -/
theorem seed_has_no_influence (first second : UInt64) (ruby : Bool) {requests : List Kernel.Request}
    (shared : ∀ before, before <+: requests →
      (before.foldl Kernel.perform (.create first ruby)).OnShared) :
    let after (seed : UInt64) (requests : List Kernel.Request) : Kernel :=
      requests.foldl Kernel.perform (.create seed ruby)
    (∀ before request, before ++ [request] <+: requests →
        (after second before).answer request = (after first before).answer request) ∧
      (∀ before, before <+: requests →
        (after second before).seedless = (after first before).seedless) ∧
      ∀ (machine : Machine) (workload : Workload) (config : RunConfig)
        (handlers handlers' : Trigger → Option Handler),
        machine.processor.hasAcceleratedCores = false →
        (∀ trigger, Option.Rel Handler.Same (handlers trigger) (handlers' trigger)) →
        ∀ seed,
          (Simulator.run
            { machine, workload, kernel := after second requests, config := { config with seed }
              handlers := handlers' }).1 =
          (Simulator.run
            { machine, workload, kernel := after first requests, config, handlers }).1.map
              fun report => { report with seed } := by
  intro after
  have twins (before : List Kernel.Request) (part : before <+: requests) :
      (after first before).Twins (after second before) := by
    refine (Kernel.Twins.create first second ruby).foldl_perform fun earlier part' => ?_
    exact shared earlier (part'.trans part)
  refine ⟨fun before request part => ?_, fun before part => (twins before part).same, ?_⟩
  · exact (twins before ((List.prefix_append before [request]).trans part)).answer request
  · intro machine workload config handlers handlers' plain same seed
    have start : Twins seed
        { machine, workload, kernel := after first requests, config, handlers }
        { machine, workload, kernel := after second requests, config := { config with seed }
          handlers := handlers' } :=
      ⟨rfl, twins requests List.prefix_rfl, rfl, rfl, same, rfl⟩
    exact start.run plain

/-- Four cores on kernels with different seeds, which first run two of them in different orders. -/
theorem seed_has_no_influence_quad :
    let requests : List Kernel.Request :=
      [.instantiate .dummy, .instantiate .dummy, .instantiate .dummy, .instantiate .dummy,
        .synchronize]
    let kernel (seed : UInt64) : Kernel := requests.foldl Kernel.perform (.create seed false)
    let run (seed : UInt64) : Except RunError RunReport × Simulator :=
      Simulator.run
        { quad with
          kernel := kernel seed
          config := { quad.config with seed }
          handlers := fun trigger =>
            if trigger = .checkpoint then some (.switchThrough ["second"]) else none }
    (∃ report final, run 1 = (.ok report, final) ∧ report.swaps = 1) ∧
      (Random.shuffle quad.machine.processor.models (kernel 1).random).1 = [⟨0⟩, ⟨1⟩] ∧
      (Random.shuffle quad.machine.processor.models (kernel 2).random).1 = [⟨1⟩, ⟨0⟩] ∧
      (run 2).1 = (run 1).1.map fun report => { report with seed := 2 } := by
  intro requests kernel run
  have shared : ∀ before ∈ requests.inits,
      (before.foldl Kernel.perform (.create 1 false)).OnShared := by
    decide +kernel
  have same := (seed_has_no_influence 1 2 false fun before part =>
    shared before ((List.mem_inits _ _).mpr part)).2.2
  have ends : ((run 1).1.toOption.any fun report => report.swaps = 1) = true := by
    decide +kernel
  refine ⟨?_, by decide +kernel, by decide +kernel, ?_⟩
  · obtain ⟨report, final, ran, swaps⟩ := exists_run_of_any ends
    exact ⟨report, final, ran, of_decide_eq_true swaps⟩
  · refine same .quad quad.workload { quad.config with seed := 1 } _ _ rfl (fun trigger => ?_) 2
    by_cases checkpoint : trigger = .checkpoint
    · rw [if_pos checkpoint]
      exact .some (Handler.same_switchThrough ["second"])
    · rw [if_neg checkpoint]
      exact .none

end Simulator

end Polycore
