import Polycore.Proofs.Processor.CoreTypes
import Polycore.Proofs.Run.Outcomes
import Polycore.Proofs.Session.Granted

/-!
# Runs that toggle at exits

A run that toggles its pair at the first exits of the guest counts them in several places: the
handler knows how many are still to come, the pair knows on which side it stands, the kernel has
granted as many swaps, and the records tell the story. `Simulator.InStep` says that all of them
agree with the number of exits on record, and every firing that succeeds keeps it (`InStep.fires`).
Unless a refusal is armed every firing does succeed (`Ready.fires`), and a pair of core types on a
new kernel gets that far (`Simulator.exists_ready`).
-/

namespace Polycore

/-- The handlers of a run that only handles exits. -/
def Handler.atExit (handler : Handler) : Trigger → Option Handler :=
  fun trigger => if trigger = .exit then some handler else none

theorem Handler.atExit_update (handler next : Handler) :
    (fun other => if other = Trigger.exit then some next else atExit handler other) =
      atExit next := by
  funext other
  rw [atExit, atExit]
  split
  · rfl
  · rfl

/-- The next `left` exits toggle the machine, and the one after them stops the run. -/
def Handler.onExit (left : Nat) : Trigger → Option Handler :=
  fun trigger => if trigger = .exit then some (.toggleTimes left) else none

/-- The number of exits on record. -/
def exitsIn (events : List ExitRecord) : Nat :=
  events.countP (·.trigger = .exit)

theorem exitsIn_concat (events : List ExitRecord) (record : ExitRecord) :
    exitsIn (events ++ [record]) =
      exitsIn events + if record.trigger = .exit then 1 else 0 := by
  simp [exitsIn, List.countP_append, List.countP_singleton]

theorem exitsIn_pos_iff {events : List ExitRecord} :
    0 < exitsIn events ↔ ∃ record ∈ events, record.trigger = .exit := by
  simp [exitsIn, List.countP_pos_iff]

/-- An exit toggles the pair while there are not more than `switches` of them, and nothing else
does. -/
theorem toggles_or_still (trigger : Trigger) (switches exits : Nat) :
    trigger = .exit ∧ exits < switches ∨ (trigger = .exit → switches ≤ exits) := by
  by_cases more : exits < switches
  · by_cases exit : trigger = .exit
    · exact .inl ⟨exit, more⟩
    · exact .inr fun h => absurd h exit
  · exact .inr fun _ => Nat.le_of_not_lt more

/-- Whether a pair stands on its start side after some exits, the first `switches` of which toggle
it. -/
def onStartAfter (switches exits : Nat) : Bool :=
  min switches exits % 2 == 0

theorem onStartAfter_succ {switches exits : Nat} (h : exits < switches) :
    onStartAfter switches (exits + 1) = !onStartAfter switches exits := by
  have next : min switches (exits + 1) = min switches exits + 1 := by omega
  rw [onStartAfter, onStartAfter, next]
  rcases Nat.mod_two_eq_zero_or_one (min switches exits) with even | odd
  · simp [Nat.add_mod, even]
  · simp [Nat.add_mod, odd]

/-! ## Where a pair stands -/

namespace PairProcessor

/-- The machine is a pair on one of its sides. It may have moved since it was put together. -/
def StandsOn (pair : PairProcessor) (onStart : Bool) (machine : Machine) : Prop :=
  ∃ current, machine = .pair current ∧ Sided current ∧ current.onStart = onStart ∧
    current.processor.outline = pair.processor.outline

variable {pair current : PairProcessor} {onStart : Bool} {machine : Machine}

theorem Sided.standsOn (h : Sided pair) : pair.StandsOn pair.onStart (.pair pair) :=
  ⟨pair, rfl, h, rfl, rfl⟩

theorem StandsOn.toggled (h : pair.StandsOn onStart (.pair current)) :
    pair.StandsOn (!onStart) (.pair current.toggled) := by
  obtain ⟨_, same, sided, rfl, outline⟩ := h
  cases same
  exact ⟨current.toggled, rfl, sided.toggled, rfl, (Processor.outline_activate _ _).trans outline⟩

/-- A pair joins a board without leaving its side. -/
theorem StandsOn.incorporate {σ : Type} [Board σ] {board board' : σ} {machine' : Machine}
    (h : pair.StandsOn onStart machine)
    (joined : machine.incorporate board = (.ok (), machine', board')) :
    pair.StandsOn onStart machine' := by
  obtain ⟨current, rfl, sided, rfl, same⟩ := h
  rw [Machine.incorporate] at joined
  rcases current.incorporate_cases board with ⟨_, _, refused⟩ | ⟨bindings, memMode, _, granted⟩
  · rw [refused] at joined
    cases joined
  · rw [granted] at joined
    cases joined
    exact ⟨_, rfl, sided.incorporated bindings memMode, rfl,
      (Processor.outline_incorporated _ _).trans same⟩

/-- The active cores are those of the side on which the pair stands. -/
theorem StandsOn.map_cores {α : Type} (h : pair.StandsOn onStart machine) (view : CoreHandle → α)
    (kept : ∀ core, view (core.setSwitchedOut false) = view core) :
    machine.processor.cores.map view = (pair.coresOn onStart).map view := by
  obtain ⟨current, rfl, sided, rfl, same⟩ := h
  rw [Machine.processor, sided.cores_eq, map_coresOn_of_outline view kept same]

end PairProcessor

namespace Simulator

variable {sim next final : Simulator} {pair current moved : PairProcessor} {kernel : Kernel}
  {left switches : Nat} {trigger : Trigger} {action : Action}

/-- A run of a pair whose first `switches` exits toggle it, as in an experiment. The exit after them
stops the run. -/
def toggling (pair : PairProcessor) (kernel : Kernel) (workload : Workload) (config : RunConfig)
    (switches : Nat) : Simulator where
  machine := .pair pair
  kernel := kernel
  workload := workload
  config := config
  handlers := Handler.onExit switches

/-! ## Firings -/

theorem handle_of_atExit {handler : Handler} (handlers : sim.handlers = Handler.atExit handler) :
    let fired := handler.fire sim.machine sim.kernel
    sim.handle .exit =
      (fired.result,
        { sim with
          machine := fired.machine
          kernel := fired.kernel
          handlers := Handler.atExit fired.handler }) := by
  have handler : sim.handlers .exit = some handler := handlers ▸ rfl
  rw [handle_of_some handler, handled, handlers, Handler.atExit_update]

/-- Once exits stop the run, everything goes by the rule for triggers without a handler. -/
theorem handle_of_spent {handler : Handler} (handlers : sim.handlers = Handler.atExit handler)
    (spent : trigger = .exit → handler = .always .stop) :
    sim.handle trigger = (.ok trigger.defaultAction, sim) := by
  by_cases exit : trigger = .exit
  · subst exit
    obtain rfl := spent rfl
    rw [handle_of_atExit handlers]
    exact Prod.ext rfl (congrArg (fun handlers => { sim with handlers }) handlers.symm)
  · have unhandled : sim.handlers trigger = none := by rw [handlers, Handler.atExit, if_neg exit]
    exact handle_of_none unhandled

/-- A firing that does not toggle the machine goes by the rule for triggers without a handler. -/
theorem handle_of_still (handlers : sim.handlers = Handler.onExit left)
    (still : trigger = .exit → left = 0) :
    sim.handle trigger = (.ok trigger.defaultAction, sim) :=
  handle_of_spent handlers fun exit => congrArg Handler.toggleTimes (still exit)

theorem handle_of_toggle (handlers : sim.handlers = Handler.onExit (left + 1))
    (machine : sim.machine = .pair current) {answer : Except ProcessorError Unit}
    (toggle : current.toggle sim.kernel = (answer, moved, kernel)) :
    sim.handle .exit =
      ((answer.map fun () => .resume).mapError .processor,
        { sim with machine := .pair moved, kernel, handlers := Handler.onExit left }) := by
  have toggles : sim.handlers = Handler.atExit (.toggleTimes (left + 1)) := handlers
  rw [handle_of_atExit toggles]
  simp only [Handler.toggleTimes, Handler.fire, Move.perform, Machine.toggle, Machine.switchTo,
    machine, toggle, Handler.goOn]
  rfl

theorem exitsIn_record (sim : Simulator) (tick : Nat) (trigger : Trigger) (action : Action) :
    exitsIn (sim.record tick trigger action).events =
      exitsIn sim.events + if trigger = .exit then 1 else 0 :=
  exitsIn_concat _ _

theorem countP_resumed_record (sim : Simulator) (tick : Nat) (trigger : Trigger) (action : Action) :
    (sim.record tick trigger action).events.countP
        (fun record => record.trigger = .exit ∧ record.action = .resume) =
      sim.events.countP (fun record => record.trigger = .exit ∧ record.action = .resume) +
        if trigger = .exit ∧ action = .resume then 1 else 0 := by
  rw [record, List.countP_append, List.countP_singleton]
  simp

theorem Fires.exitsIn_events (h : Fires sim trigger action next) :
    exitsIn next.events = exitsIn sim.events + if trigger = .exit then 1 else 0 := by
  rw [h.events, exitsIn_concat]
  rfl

/-! ## Everybody counts the same switches -/

/-- The handler, the machine, the kernel and the records agree with the number of exits on record
about the first `switches` exits, which toggle the pair. -/
structure InStep (pair : PairProcessor) (switches : Nat) (sim : Simulator) : Prop where
  handlers : sim.handlers = Handler.onExit (switches - exitsIn sim.events)
  machine : pair.StandsOn (onStartAfter switches (exitsIn sim.events)) sim.machine
  swaps : sim.kernel.swaps = min switches (exitsIn sim.events)
  resumed : sim.events.countP (fun record => record.trigger = .exit ∧ record.action = .resume) =
    min switches (exitsIn sim.events)
  activeCores : ∀ place record, sim.events[place]? = some record →
    record.activeCores =
      (pair.coresOn (onStartAfter switches (exitsIn (sim.events.take (place + 1))))).map (·.name)

theorem swaps_of_toggle {kernel kernel' : Kernel}
    (h : pair.toggle kernel = (.ok (), moved, kernel')) :
    moved = pair.toggled ∧ kernel'.swaps = kernel.swaps + 1 := by
  rcases pair.toggle_cases kernel with ⟨_, _, -, refused⟩ | ⟨board, switched, granted⟩
  · cases h.symm.trans refused
  · cases h.symm.trans granted
    refine ⟨rfl, ?_⟩
    rcases pair.processor.switchTo_cases pair.otherSide kernel with
      ⟨_, refused⟩ | ⟨_, -, -, -, ⟨_, _, -, refused⟩ | ⟨_, swapped, granted⟩⟩
    · cases switched.symm.trans refused
    · cases switched.symm.trans refused
    · cases switched.symm.trans granted
      rw [(Kernel.exchange_of_swap_eq_ok swapped).2]
      rfl

namespace InStep

theorem runQuantum (h : InStep pair switches sim) (ticks : Nat) :
    InStep pair switches (sim.runQuantum ticks) where
  handlers := h.handlers
  machine := h.machine
  swaps :=
    (sim.kernel.swaps_perform (.runQuantum ticks sim.workload.fpFraction) rfl).trans h.swaps
  resumed := h.resumed
  activeCores := h.activeCores

/-- A record keeps everybody in step, if all but the records have counted its event already. -/
theorem record (h : InStep pair switches sim) {base : Simulator} (events : base.events = sim.events)
    (tick : Nat) (trigger : Trigger) (action : Action) {exits : Nat}
    (counted : exits = exitsIn sim.events + if trigger = .exit then 1 else 0)
    (handlers : base.handlers = Handler.onExit (switches - exits))
    (machine : pair.StandsOn (onStartAfter switches exits) base.machine)
    (swaps : base.kernel.swaps = min switches exits)
    (resumed : min switches exits =
      min switches (exitsIn sim.events) + if trigger = .exit ∧ action = .resume then 1 else 0) :
    InStep pair switches (base.record tick trigger action) := by
  have total : exitsIn (base.record tick trigger action).events = exits := by
    rw [exitsIn_record, events, counted]
  have recorded : (base.record tick trigger action).events = sim.events ++ [_] :=
    congrArg (· ++ [_]) events
  refine ⟨?_, ?_, ?_, ?_, ?_⟩
  · rw [total]
    exact handlers
  · rw [total]
    exact machine
  · rw [total]
    exact swaps
  · rw [total, countP_resumed_record, events, h.resumed, resumed]
  · intro place record stands
    rw [recorded] at stands total ⊢
    rcases getElem?_concat_eq_some_iff.mp stands with earlier | ⟨rfl, rfl⟩
    · have inside : place < sim.events.length := (List.getElem?_eq_some_iff.mp earlier).1
      rw [List.take_append_of_le_length inside]
      exact h.activeCores place record earlier
    · rw [List.take_of_length_le (by simp), total]
      exact machine.map_cores (·.name) fun _ => rfl

section Still

variable (h : InStep pair switches sim) (still : trigger = .exit → switches ≤ exitsIn sim.events)

include h still

theorem fire_eq_of_still :
    sim.fire trigger =
      (.ok trigger.defaultAction,
        { sim with kernel := sim.kernel.synchronize.2 }.record sim.kernel.clocks.horizon trigger
          trigger.defaultAction) := by
  refine fire_of_handle_eq_ok (handle_of_still ?_ fun exit => Nat.sub_eq_zero_of_le (still exit))
  exact h.handlers

/-- An event that does not toggle the machine passes by the rule for triggers without a handler. -/
theorem fire_still :
    ∃ next, sim.fire trigger = (.ok trigger.defaultAction, next) ∧ InStep pair switches next ∧
      next.session = sim.session.perform (.kernel .synchronize rfl) := by
  refine ⟨_, h.fire_eq_of_still still, ?_, rfl⟩
  let exits := exitsIn sim.events + if trigger = .exit then 1 else 0
  have same : switches - exits = switches - exitsIn sim.events ∧
      min switches exits = min switches (exitsIn sim.events) := by
    by_cases exit : trigger = .exit
    · have := still exit
      simp only [exits, if_pos exit]
      omega
    · simp only [exits, if_neg exit, Nat.add_zero, and_self]
  refine h.record ?_ _ trigger _ rfl ?_ ?_ ?_ ?_
  · rfl
  · rw [same.1]
    exact h.handlers
  · rw [onStartAfter, same.2]
    exact h.machine
  · exact h.swaps.trans same.2.symm
  · rw [same.2]
    cases trigger <;> simp [Trigger.defaultAction]

end Still

section Toggle

variable (h : InStep pair switches sim) (more : exitsIn sim.events < switches)
  (machine : sim.machine = .pair current)

include h more machine

theorem handle_exit {answer : Except ProcessorError Unit}
    (toggle : current.toggle sim.kernel.synchronize.2 = (answer, moved, kernel)) :
    handle { sim with kernel := sim.kernel.synchronize.2 } .exit =
      ((answer.map fun () => .resume).mapError .processor,
        { sim with
          machine := .pair moved
          kernel
          handlers := Handler.onExit (switches - (exitsIn sim.events + 1)) }) := by
  let synced : Simulator := { sim with kernel := sim.kernel.synchronize.2 }
  have left : switches - exitsIn sim.events = switches - (exitsIn sim.events + 1) + 1 := by omega
  have handlers : synced.handlers = Handler.onExit _ := left ▸ h.handlers
  exact handle_of_toggle handlers machine toggle

/-- An exit that toggles the machine passes, and everybody counts it. -/
theorem fire_toggle (toggle : current.toggle sim.kernel.synchronize.2 = (.ok (), moved, kernel)) :
    ∃ next, sim.fire .exit = (.ok .resume, next) ∧ InStep pair switches next ∧
      next.session = { machine := .pair moved, kernel } := by
  have handled := h.handle_exit more machine toggle
  obtain ⟨rfl, swaps⟩ := swaps_of_toggle toggle
  have stands := h.machine
  rw [machine] at stands
  have before : sim.kernel.synchronize.2.swaps = min switches (exitsIn sim.events) := h.swaps
  have counted : min switches (exitsIn sim.events + 1) = min switches (exitsIn sim.events) + 1 := by
    omega
  refine ⟨_, fire_of_handle_eq_ok handled, h.record ?_ _ .exit _ rfl rfl ?_ ?_ counted, rfl⟩
  · rfl
  · exact onStartAfter_succ more ▸ stands.toggled
  · exact (swaps.trans (congrArg (· + 1) before)).trans counted.symm

/-- The run fails at an exit that is to toggle the machine, if the toggle is refused. -/
theorem fire_refused {error : ProcessorError}
    (toggle : current.toggle sim.kernel.synchronize.2 = (.error error, moved, kernel)) :
    ∃ final, sim.fire .exit = (.error (.processor error), final) ∧
      final.session = { machine := .pair moved, kernel } :=
  ⟨_, fire_of_handle_eq_error (h.handle_exit more machine toggle), rfl⟩

end Toggle

/-- Every firing that succeeds keeps everybody in step. Only an exit that toggles the machine does
not go by the rule for triggers without a handler. -/
theorem fires (h : InStep pair switches sim) (fires : Fires sim trigger action next) :
    InStep pair switches next ∧
      action =
        if trigger = .exit ∧ exitsIn sim.events < switches then .resume
        else trigger.defaultAction := by
  rcases toggles_or_still trigger switches (exitsIn sim.events) with ⟨rfl, more⟩ | still
  · obtain ⟨current, machine, -⟩ := h.machine
    rw [if_pos ⟨rfl, more⟩]
    rcases outcome : current.toggle sim.kernel.synchronize.2 with ⟨error | _, moved, kernel⟩
    · obtain ⟨_, failed, -⟩ := h.fire_refused more machine outcome
      cases fires.fire.symm.trans failed
    · obtain ⟨_, fired, kept, -⟩ := h.fire_toggle more machine outcome
      cases fires.fire.symm.trans fired
      exact ⟨kept, rfl⟩
  · obtain ⟨_, fired, kept, -⟩ := h.fire_still still
    cases fires.fire.symm.trans fired
    rw [if_neg fun toggles => Nat.not_le_of_lt toggles.2 (still toggles.1)]
    exact ⟨kept, rfl⟩

end InStep

/-! ## The start of a run -/

/-- Everybody is in step when the first turn begins. -/
theorem Started.inStep {pace : Pace} {workload : Workload} {config : RunConfig}
    (h : Started (toggling pair kernel workload config switches) pace next) (sided : pair.Sided)
    (onStart : pair.onStart = true) (reachable : kernel.Reachable) : InStep pair switches next := by
  have unrecorded : next.events = [] := h.events
  have none : min switches 0 = 0 := Nat.min_zero switches
  refine ⟨?_, ?_, ?_, ?_, ?_⟩
  all_goals rw [unrecorded]
  · exact h.handlers
  · obtain ⟨_, joined, -⟩ := h.session
    have stands := onStart ▸ sided.standsOn
    rw [onStartAfter, exitsIn, List.countP_nil, none]
    exact stands.incorporate joined
  · obtain ⟨joined, ready, booted⟩ := h.exists_boot_of_reachable reachable
    have swaps := joined.swaps_perform (.boot next.machine.processor.models) rfl
    rw [Kernel.perform, booted] at swaps
    rcases joined.boot_cases next.machine.processor.models with ⟨_, refused⟩ | ⟨unbooted, -, -⟩
    · cases booted.symm.trans refused
    · exact (swaps.trans (ready.swaps_eq_zero unbooted)).trans none.symm
  · exact none.symm
  · exact fun _ _ found => absurd found (by simp)

/-! ## Runs of which nothing is refused -/

/-- Everybody is in step, and the kernel has no reason to refuse the next toggle. -/
structure Ready (pair : PairProcessor) (switches : Nat) (sim : Simulator) : Prop where
  inStep : InStep pair switches sim
  settled : sim.session.Settled
  unarmed : sim.kernel.armedSwap = none

namespace Ready

theorem runQuantum (h : Ready pair switches sim) (ticks : Nat) :
    Ready pair switches (sim.runQuantum ticks) := by
  let request : Kernel.Request := .runQuantum ticks sim.workload.fpFraction
  refine ⟨h.inStep.runQuantum ticks, h.settled.perform (.kernel request rfl), ?_⟩
  have record := sim.kernel.swapRecord_perform request rfl rfl
  exact (congrArg Prod.fst record).trans h.unarmed

/-- What the machine is at an exit that toggles it. -/
theorem exists_pair (h : Ready pair switches sim) :
    ∃ current, sim.machine = .pair current ∧ current.Sided ∧
      Session.Settled { machine := .pair current, kernel := sim.kernel.synchronize.2 } := by
  obtain ⟨current, machine, sided, -⟩ := h.inStep.machine
  have settled := h.settled.perform (.kernel .synchronize rfl)
  simp only [Session.perform, session, machine] at settled
  exact ⟨current, machine, sided, settled⟩

/-- As long as nothing is refused every firing succeeds. -/
theorem fires (h : Ready pair switches sim) (trigger : Trigger) :
    ∃ action next, sim.fire trigger = (.ok action, next) ∧ Ready pair switches next := by
  rcases toggles_or_still trigger switches (exitsIn sim.events) with ⟨rfl, more⟩ | still
  · obtain ⟨current, machine, sided, settled⟩ := h.exists_pair
    obtain ⟨kernel, toggled, settled, unarmed⟩ := settled.toggle_granted sided h.unarmed
    obtain ⟨next, fired, kept, after⟩ := h.inStep.fire_toggle more machine toggled
    refine ⟨.resume, next, fired, kept, after ▸ settled, ?_⟩
    exact (congrArg (fun session => session.kernel.armedSwap) after).trans unarmed
  · obtain ⟨next, fired, kept, after⟩ := h.inStep.fire_still still
    refine ⟨_, next, fired, kept, after ▸ h.settled.perform (.kernel .synchronize rfl), ?_⟩
    exact (congrArg (fun session => session.kernel.armedSwap) after).trans h.unarmed

end Ready

theorem Ready.exists_loop (h : Ready pair switches sim) (pace : Pace) (pending : List GuestEvent) :
    ∃ reason final, loop pace pending sim = (.ok reason, final) ∧ Ready pair switches final :=
  loop_succeeds (fun trigger h => h.fires trigger) (fun ticks h => h.runQuantum ticks) pace pending
    h

/-- A pair of core types on a new kernel is ready when the first turn of its run begins. -/
theorem exists_ready {types : List CoreType} (nonempty : types ≠ [])
    (counts : ∀ type ∈ types, 0 < type.count)
    (fits : 2 * (types.map (·.count)).sum < Word.bound32) (isa : Isa) (seed : UInt64)
    (ruby : Bool) :
    ∃ pair kernel, PairProcessor.ofCoreTypes Experiment.instantiate types isa (.create seed ruby) =
        (.ok pair, kernel) ∧
      ∀ {config : RunConfig} {workload : Workload} {pace : Pace} (switches : Nat),
        config.pace = .ok pace → workload.error? = none →
        ∃ started, Started (toggling pair kernel workload config switches) pace started ∧
          Ready pair switches started := by
  obtain ⟨pair, pairs, descriptors, made, alone, length, models, granted⟩ :=
    PairProcessor.exists_on_new_kernel nonempty counts isa seed ruby
  let kernel := (Kernel.create seed ruby).register descriptors
  let session : Session := { machine := .pair pair, kernel }
  have reachable : session.kernel.Reachable :=
    Kernel.reachable_register (fun _ => trivial) descriptors (.create seed ruby)
  have wf : session.processor.WF := (Machine.Created.pair made).wf
  have registered : session.Registered := by
    have all : ∀ model ∈ pair.processor.allCores.map (·.model),
        (kernel.object? model).isSome = true := by
      rw [models]
      refine List.forall_mem_map.mpr fun index mem => Kernel.isSome_object?_register ?_
      exact Nat.lt_add_left _ (List.mem_range.mp mem)
    exact List.forall_mem_map.mp all
  have cores : pair.processor.allCores.length = descriptors.length := by
    simpa using congrArg List.length models
  rw [← length, ← cores] at fits
  have fits : (session.processor.allCores.filter (·.accelerated)).length < Word.bound32 :=
    Nat.lt_of_le_of_lt (List.length_filter_le _ _) fits
  obtain ⟨machine, joined, booted, incorporated, boot, settled, record⟩ :=
    Session.exists_settled wf alone fits registered reachable rfl
      fun _ _ => Kernel.isShared_timeline?_register
  refine ⟨pair, kernel, granted, fun {config workload pace} switches paced valid => ?_⟩
  let sim := toggling pair kernel workload config switches
  have start : sim.start = (.ok pace, { sim with machine, kernel := booted }) :=
    start_of_session paced valid incorporated boot
  have started := started_of_start start
  obtain ⟨_, _, -, -, -, onStart⟩ := PairProcessor.exists_of_ofPairs made
  refine ⟨_, started, ?_, settled, congrArg Prod.fst record⟩
  exact started.inStep (PairProcessor.sided_of_ofPairs made) onStart reachable

end Simulator

end Polycore
