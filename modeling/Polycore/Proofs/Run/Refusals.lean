import Polycore.Proofs.Run.Toggling

/-!
# Only an armed refusal fails a run

The run of a pair made of core types ends with a report, whatever its guest and its models do: no
step of it is refused. A refusal that is armed before the run goes along unseen with the first turns
(`Simulator.Armed`), so the run comes out as it would without it, or fails at the first exit that is
to toggle the pair (`Simulator.loop_armed`).
-/

namespace Polycore.Simulator

variable {sim next final : Simulator} {pair : PairProcessor} {kernel : Kernel} {switches : Nat}
  {trigger : Trigger} {reason : String}

/-! ## An armed refusal goes along -/

/-- The simulator with the next swap to be refused. -/
def armed (reason : String) (sim : Simulator) : Simulator :=
  { sim with kernel := sim.kernel.failNextSwap reason }

theorem runQuantum_armed (reason : String) (sim : Simulator) (ticks : Nat) :
    (sim.armed reason).runQuantum ticks = (sim.runQuantum ticks).armed reason := by
  rw [runQuantum, armed]
  dsimp only
  rw [Kernel.runQuantum_failNextSwap]
  rfl

theorem Started.armed {pace : Pace} {started : Simulator} (h : Started sim pace started)
    (reason : String) : (sim.armed reason).start = (.ok pace, started.armed reason) := by
  obtain ⟨kernel, granted, booted⟩ := h.session
  have same := h.start.symm.trans (start_of_session h.pace h.valid granted booted)
  rw [Prod.mk.injEq] at same
  have joined := sim.machine.incorporate_along (f := Kernel.failNextSwap reason) (fun _ => rfl)
    (fun model timeline kernel => kernel.assignTimeline_failNextSwap reason model timeline)
    (fun _ _ => rfl) (fun _ => rfl) sim.kernel
  have boot := kernel.boot_failNextSwap reason started.machine.processor.models
  rw [granted] at joined
  rw [booted] at boot
  rw [same.2]
  exact start_of_session h.pace h.valid joined boot

theorem InStep.armed (h : InStep pair switches sim) (reason : String) :
    InStep pair switches (sim.armed reason) :=
  ⟨h.handlers, h.machine, h.swaps, h.resumed, h.activeCores⟩

/-! ## Up to the first toggle -/

/-- An exit has toggled the pair. -/
def Toggled (switches : Nat) (sim : Simulator) : Prop :=
  0 < switches ∧ ∃ record ∈ sim.events, record.trigger = .exit

theorem Toggled.fire (h : Toggled switches sim) (trigger : Trigger) :
    Toggled switches (sim.fire trigger).2 := by
  obtain ⟨any, record, mem, exit⟩ := h
  refine ⟨any, record, ?_, exit⟩
  rcases (sim.fire_frame trigger).2.2 with ⟨_, -, same⟩ | ⟨_, last, -, recorded⟩
  · rwa [same]
  · rw [recorded]
    exact List.mem_append_left _ mem

/-- What an armed refusal leaves of a run. -/
structure Refused (pair : PairProcessor) (reason : String) (error : RunError) (final : Simulator) :
    Prop where
  error : error = .processor (.board (.swapFailed reason))
  machine : pair.StandsOn true final.machine
  swaps : final.kernel.swaps = 0
  settled : final.session.Settled

/-- The second simulator is the first one with a refusal armed, and none of the two has toggled. -/
structure Armed (pair : PairProcessor) (switches : Nat) (reason : String) (sim sim' : Simulator) :
    Prop where
  eq : sim' = sim.armed reason
  ready : Ready pair switches sim
  untoggled : ¬Toggled switches sim

namespace Armed

variable {sim' : Simulator}

/-- An armed refusal does not show before the first exit that is to toggle the pair. -/
theorem fires (h : Armed pair switches reason sim sim') (trigger : Trigger) :
    Alike (Armed pair switches reason) (Toggled switches) (Refused pair reason) (sim.fire trigger)
      (sim'.fire trigger) := by
  obtain ⟨rfl, ready, untoggled⟩ := h
  obtain ⟨action, next, fired, after⟩ := ready.fires trigger
  have counted := (fires_of_fire fired).exitsIn_events
  have first : 0 < switches → exitsIn sim.events = 0 :=
    fun any => Nat.eq_zero_of_not_pos fun past => untoggled ⟨any, exitsIn_pos_iff.mp past⟩
  rcases toggles_or_still trigger switches (exitsIn sim.events) with ⟨rfl, more⟩ | still
  · have any : 0 < switches := Nat.zero_lt_of_lt more
    obtain ⟨current, machine, sided, settled⟩ := ready.exists_pair
    obtain ⟨final, failed, left⟩ := (ready.inStep.armed reason).fire_refused more machine
      (settled.toggle_refused sided ready.unarmed reason)
    have stands := ready.inStep.machine
    have swaps := ready.inStep.swaps
    rw [first any, onStartAfter, Nat.min_zero, machine] at stands
    rw [first any, Nat.min_zero] at swaps
    rw [fired, failed]
    refine .failed ⟨any, exitsIn_pos_iff.mp ?_⟩ ⟨rfl, ?_, ?_, left ▸ settled⟩
    · rw [counted, if_pos rfl]
      exact Nat.succ_pos _
    · have same : final.machine = .pair current := congrArg Session.machine left
      exact same ▸ stands
    · exact (congrArg (fun session => session.kernel.swaps) left).trans swaps
  · have plain := ready.inStep.fire_eq_of_still still
    have same := (ready.inStep.armed reason).fire_eq_of_still still
    cases fired.symm.trans plain
    rw [plain, same]
    refine .same ⟨rfl, after, fun toggled => ?_⟩
    obtain ⟨any, past⟩ := toggled
    rw [← exitsIn_pos_iff, counted, first any, Nat.zero_add] at past
    split at past
    · next exit => exact absurd (first any ▸ still exit) (Nat.not_le_of_lt any)
    · exact absurd past (Nat.lt_irrefl 0)

theorem runQuantum (h : Armed pair switches reason sim sim') (ticks : Nat) :
    Armed pair switches reason (sim.runQuantum ticks) (sim'.runQuantum ticks) := by
  obtain ⟨rfl, ready, untoggled⟩ := h
  exact ⟨runQuantum_armed reason sim ticks, ready.runQuantum ticks, untoggled⟩

end Armed

/-- A run with a refusal armed comes out as it would without it, unless it toggles the pair. -/
theorem loop_armed (h : Ready pair switches sim) (untoggled : ¬Toggled switches sim)
    (reason : String) (pace : Pace) (pending : List GuestEvent) :
    Alike (Armed pair switches reason) (Toggled switches) (Refused pair reason)
      (loop pace pending sim) (loop pace pending (sim.armed reason)) := by
  have agree {sim sim' : Simulator} (h : Armed pair switches reason sim sim') :
      sim'.kernel.tick = sim.kernel.tick ∧
        sim'.kernel.totalInstructions = sim.kernel.totalInstructions ∧
        sim'.workload.instructions = sim.workload.instructions := by
    obtain ⟨rfl, -, -⟩ := h
    exact ⟨rfl, rfl, rfl⟩
  exact loop_alike (fun trigger h => h.fires trigger) (fun trigger h => h.fire trigger) agree
    (fun ticks h => h.runQuantum ticks) (fun _ h => h) pace pending ⟨rfl, h, untoggled⟩

/-- How a run comes out before which a refusal was armed; `report` is that of the run without it. -/
inductive ArmedOutcome (pair : PairProcessor) (switches : Nat) (reason : String)
    (report : RunReport) (outcome : Except RunError RunReport × Simulator) : Prop where
  /-- it fails at the first exit that was to toggle the pair, which stays as it booted -/
  | failed (toggles : 0 < switches ∧ ∃ record ∈ report.events, record.trigger = .exit)
    (error : outcome.1 = .error (.processor (.board (.swapFailed reason))))
    (machine : ∃ current, outcome.2.machine = .pair current ∧ current.onStart = true ∧
      current.processor.active = PairProcessor.startName)
    (swaps : outcome.2.kernel.swaps = 0)
    (running : ∀ model, outcome.2.kernel.isRunning model = true ↔
      model ∈ (pair.coresOn true).map (·.model))
  /-- no exit was to toggle the pair, and it has the same report -/
  | same (still : ¬(0 < switches ∧ ∃ record ∈ report.events, record.trigger = .exit))
    (ok : outcome.1 = .ok report)

/-- The run of a pair of core types that exits toggle never fails by itself. With a refusal armed it
fails exactly if it would have toggled the pair. -/
theorem run_fails_only_if_refused {types : List CoreType} (nonempty : types ≠ [])
    (counts : ∀ type ∈ types, 0 < type.count)
    (fits : 2 * (types.map (·.count)).sum < Word.bound32) (isa : Isa) (seed : UInt64)
    (ruby : Bool) (switches : Nat) {config : RunConfig} {workload : Workload} {pace : Pace}
    (paced : config.pace = .ok pace) (valid : workload.error? = none) :
    ∃ pair kernel, PairProcessor.ofCoreTypes Experiment.instantiate types isa (.create seed ruby) =
        (.ok pair, kernel) ∧
      ∃ report final, (toggling pair kernel workload config switches).run = (.ok report, final) ∧
        ∀ reason, ArmedOutcome pair switches reason report
          (toggling pair (kernel.failNextSwap reason) workload config switches).run := by
  obtain ⟨pair, kernel, made, ready⟩ := exists_ready nonempty counts fits isa seed ruby
  obtain ⟨started, hstarted, ready⟩ := ready switches paced valid
  obtain ⟨cause, final, ended, -⟩ := ready.exists_loop pace started.workload.schedule
  refine ⟨pair, kernel, made, final.report cause, final, run_of_start hstarted.start ended, ?_⟩
  intro reason
  have untoggled : ¬Toggled switches started := by
    rintro ⟨-, record, mem, -⟩
    rw [hstarted.events] at mem
    cases mem
  have alike := loop_armed ready untoggled reason pace started.workload.schedule
  have start : (toggling pair (kernel.failNextSwap reason) workload config switches).start =
      (.ok pace, started.armed reason) := hstarted.armed reason
  rw [ended] at alike
  generalize turns : loop pace started.workload.schedule (started.armed reason) = outcome at alike
  cases alike with
  | same armed =>
    obtain ⟨rfl, -, still⟩ := armed
    rw [run_of_start start turns]
    exact .same still rfl
  | failed toggles refused =>
    rw [run_of_start_of_error start turns]
    refine .failed toggles (congrArg _ refused.error) ?_ refused.swaps fun model => ?_
    · obtain ⟨current, machine, sided, onStart, -⟩ := refused.machine
      refine ⟨current, machine, onStart, ?_⟩
      rw [sided.active, onStart]
      rfl
    · rw [← refused.machine.map_cores (·.model) fun _ => rfl]
      exact refused.settled.coupled.running model

/-- Two dummies in one slot, which the guest's first exit toggles: every armed refusal fails the
run. -/
theorem run_fails_only_if_refused_duo :
    ∃ pair kernel, PairProcessor.ofCoreTypes Experiment.instantiate [⟨.dummy, .dummy, 1⟩] .x86
        (.create 0 false) = (.ok pair, kernel) ∧
      (∃ report final,
        (toggling pair kernel duo.workload duo.config 1).run = (.ok report, final)) ∧
      ∀ reason,
        (toggling pair (kernel.failNextSwap reason) duo.workload duo.config 1).run.1 =
          .error (.processor (.board (.swapFailed reason))) := by
  have paced : duo.config.pace = .ok ⟨10, 100, by decide, by decide⟩ := rfl
  have nonempty : [(⟨.dummy, .dummy, 1⟩ : CoreType)] ≠ [] := List.cons_ne_nil _ _
  obtain ⟨pair, kernel, made, report, final, ran, armed⟩ :=
    run_fails_only_if_refused nonempty (by decide) (by decide) .x86 0 false 1 paced
      error?_workload_duo
  have exits :
      (let made := PairProcessor.ofCoreTypes Experiment.instantiate [⟨.dummy, .dummy, 1⟩] .x86
          (.create 0 false)
       made.1.toOption.any fun pair =>
         (toggling pair made.2 duo.workload duo.config 1).run.1.toOption.any fun report =>
           report.events.any (·.trigger = .exit)) = true := by
    decide +kernel
  rw [made] at exits
  dsimp only [Except.toOption, Option.any] at exits
  rw [ran] at exits
  refine ⟨pair, kernel, made, ⟨report, final, ran⟩, fun reason => ?_⟩
  cases armed reason with
  | failed _ error => exact error
  | same still => exact absurd ⟨Nat.one_pos, by simpa using exits⟩ still

end Polycore.Simulator
