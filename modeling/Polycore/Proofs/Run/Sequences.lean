import Polycore.Proofs.Run.Failures
import Polycore.Proofs.Run.Switches

/-!
# Runs that switch through named configurations

A run whose exits switch its processor through some names goes to exactly these, one at each exit.
Whether it may go to a name depends on where it stands when the turn of the name comes (`Walkable`).
While it may, everybody agrees on how far it has come (`Simulator.Walks`), and every firing keeps
that or fails at the first name to which the processor may not go (`Walks.firing`). The main
statement is `Simulator.run_walks_names`.
-/

namespace Polycore

/-- Each of some names is known, and is not the one that is active when its turn comes. -/
def Walkable (known : List String) (active : String) : List String → Prop
  | [] => True
  | name :: names => (name ∈ known ∧ name ≠ active) ∧ Walkable known name names

/-- One of some names is the first that is unknown, or active when its turn comes. -/
structure FirstBad (known : List String) (active : String) (names before : List String)
    (bad : String) : Prop where
  split : ∃ after, names = before ++ bad :: after
  walkable : Walkable known active before
  stays : bad ∉ known ∨ bad = before.getLastD active

variable {known names before before' : List String} {active starting bad bad' : String}

theorem walkable_append {first second : List String} :
    Walkable known active (first ++ second) ↔
      Walkable known active first ∧ Walkable known (first.getLastD active) second := by
  induction first generalizing active with
  | nil => simp [Walkable]
  | cons name rest ih =>
    rw [List.cons_append, Walkable, Walkable, ih, List.getLastD_cons]
    exact and_assoc.symm

theorem FirstBad.not_walkable (h : FirstBad known active names before bad) :
    ¬Walkable known active names := by
  obtain ⟨⟨after, rfl⟩, -, stays⟩ := h
  intro walkable
  obtain ⟨known, other⟩ := (walkable_append.mp walkable).2.1
  exact stays.elim (absurd known) (absurd · other)

theorem FirstBad.unique (h : FirstBad known active names before bad)
    (h' : FirstBad known active names before' bad') : before = before' ∧ bad = bad' := by
  obtain ⟨after, split⟩ := h.split
  obtain ⟨after', rfl⟩ := h'.split
  -- the shorter one of both prefixes would be followed by a name to which the other one goes
  rcases List.append_eq_append_iff.mp split with ⟨more, hbefore, rest⟩ | ⟨more, hbefore, rest⟩
  · cases more with
    | nil => exact ⟨hbefore.trans (List.append_nil _), (List.cons.inj rest).1.symm⟩
    | cons first more =>
      obtain ⟨rfl, -⟩ := List.cons.inj rest
      exact absurd h.walkable (not_walkable ⟨⟨more, hbefore⟩, h'.walkable, h'.stays⟩)
  · cases more with
    | nil => exact ⟨(hbefore.trans (List.append_nil _)).symm, (List.cons.inj rest).1⟩
    | cons first more =>
      obtain ⟨rfl, -⟩ := List.cons.inj rest
      exact absurd h'.walkable (not_walkable ⟨⟨more, hbefore⟩, h.walkable, h.stays⟩)

/-! ## Firings of the handler -/

theorem Handler.fire_switchThrough {machine machine' : Machine} {kernel kernel' : Kernel}
    {name : String} {answer : Except ProcessorError Unit}
    (switched : machine.switchTo name kernel = (answer, machine', kernel')) (names : List String) :
    (switchThrough (name :: names)).fire machine kernel =
      { result := (answer.map fun () => .resume).mapError .processor
        handler := switchThrough names
        machine := machine'
        kernel := kernel' } := by
  simp only [switchThrough, fire, Move.perform, switched, goOn]

namespace Simulator

variable {sim next final : Simulator} {walked left : List String} {name : String}
  {trigger : Trigger} {action : Action} {error : RunError}

/-- The processor has gone to some names without a refusal, and the exits to come switch it through
the others. -/
structure Walked (known : List String) (starting : String) (walked left : List String)
    (sim : Simulator) : Prop where
  handlers : sim.handlers = Handler.atExit (.switchThrough left)
  machine : ∃ current, sim.machine = .switchable current ∧
    current.configurations.map (·.name) = known ∧ current.active = walked.getLastD starting
  walkable : Walkable known starting walked
  /-- nothing is armed, and a swap was granted for each name -/
  swapRecord : sim.kernel.swapRecord = (none, walked.length)
  settled : sim.session.Settled

namespace Walked

theorem perform (h : Walked known starting walked left sim) (request : Kernel.Request)
    (indirect : request.isSwap = false) (unarming : request.isArming = false) :
    Walked known starting walked left { sim with kernel := sim.kernel.perform request } where
  handlers := h.handlers
  machine := h.machine
  walkable := h.walkable
  swapRecord := (sim.kernel.swapRecord_perform request indirect unarming).trans h.swapRecord
  settled := h.settled.perform (.kernel request indirect)

theorem record (h : Walked known starting walked left sim) (tick : Nat) (trigger : Trigger)
    (action : Action) : Walked known starting walked left (sim.record tick trigger action) :=
  ⟨h.handlers, h.machine, h.walkable, h.swapRecord, h.settled⟩

/-- What does not switch the processor goes by the rule for triggers without a handler. -/
theorem handle_still (h : Walked known starting walked left sim)
    (still : trigger = .exit → left = []) :
    sim.handle trigger = (.ok trigger.defaultAction, sim) :=
  handle_of_spent h.handlers fun exit => congrArg Handler.switchThrough (still exit)

/-- An exit switches the processor to the next name, if that is a good one. -/
theorem handle_switch (h : Walked known starting walked (name :: left) sim)
    (goes : name ∈ known ∧ name ≠ walked.getLastD starting) :
    ∃ next, sim.handle .exit = (.ok .resume, next) ∧
      Walked known starting (walked ++ [name]) left next ∧ next.events = sim.events := by
  obtain ⟨current, machine, rfl, active⟩ := h.machine
  have settled := h.settled
  rw [session, machine] at settled
  obtain ⟨kernel, switched, settled, record⟩ :=
    settled.switchTo_granted (congrArg Prod.fst h.swapRecord) goes.1 (active ▸ goes.2)
  have handled := handle_of_atExit h.handlers
  simp only [machine, Handler.fire_switchThrough switched] at handled
  refine ⟨_, handled, ⟨rfl, ⟨current.activate name, rfl, ?_, ?_⟩, ?_, ?_, settled⟩, rfl⟩
  · exact Processor.map_eq_of_outline (·.name) (fun _ => rfl) (current.outline_activate name)
  · rw [List.getLastD_concat]
    rfl
  · exact walkable_append.mpr ⟨h.walkable, goes, trivial⟩
  · have before : sim.kernel.swaps = walked.length := congrArg Prod.snd h.swapRecord
    rw [record, List.length_append, ← before]
    rfl

/-- A bad name leaves the machine and the kernel as they are. -/
theorem handle_refused (h : Walked known starting walked (name :: left) sim)
    (stays : name ∉ known ∨ name = walked.getLastD starting) :
    sim.handle .exit =
      (.error (.processor
          (if name ∈ known then .alreadyActive name else .unknownConfiguration name)),
        { sim with handlers := Handler.atExit (.switchThrough left) }) := by
  obtain ⟨current, machine, rfl, active⟩ := h.machine
  have settled := h.settled
  rw [session, machine] at settled
  have refused := settled.switchTo_refused (stays.imp_right (·.trans active.symm)) sim.kernel
  have handled := handle_of_atExit h.handlers
  simp only [machine, Handler.fire_switchThrough refused] at handled
  rw [handled, machine]
  rfl

end Walked

/-! ## Everybody knows how far the processor has come -/

/-- The handler, the machine, the kernel and the records agree with the number of exits on record
about the names to which the processor has gone: as many of the first ones. -/
structure Walks (known : List String) (starting : String) (names : List String) (sim : Simulator) :
    Prop where
  walked : Walked known starting (names.take (exitsIn sim.events)) (names.drop (exitsIn sim.events))
    sim
  resumed : sim.events.countP (fun record => record.trigger = .exit ∧ record.action = .resume) =
    min (exitsIn sim.events) names.length

/-- How a trigger fires in such a run. -/
inductive Firing (known : List String) (starting : String) (names : List String) (sim : Simulator)
    (trigger : Trigger) : Except RunError Action × Simulator → Prop where
  | still {next : Simulator} (still : trigger = .exit → names.length ≤ exitsIn sim.events)
    (walks : Walks known starting names next) :
    Firing known starting names sim trigger (.ok trigger.defaultAction, next)
  | switched {next : Simulator} (exit : trigger = .exit)
    (more : exitsIn sim.events < names.length) (walks : Walks known starting names next) :
    Firing known starting names sim trigger (.ok .resume, next)
  | refused {bad : String} {final : Simulator} (exit : trigger = .exit)
    (first : FirstBad known starting (names.take (exitsIn sim.events + 1))
      (names.take (exitsIn sim.events)) bad)
    (machine : final.machine = sim.machine)
    (swapRecord : final.kernel.swapRecord = sim.kernel.swapRecord) :
    Firing known starting names sim trigger
      (.error (.processor (if bad ∈ known then .alreadyActive bad else .unknownConfiguration bad)),
        final)

namespace Walks

theorem runQuantum (h : Walks known starting names sim) (ticks : Nat) :
    Walks known starting names (sim.runQuantum ticks) where
  walked := h.walked.perform (.runQuantum ticks sim.workload.fpFraction) rfl rfl
  resumed := h.resumed

/-- A record keeps everybody in agreement, if all but the records have counted its event already. -/
theorem record (h : Walks known starting names sim) {base : Simulator}
    (events : base.events = sim.events) (tick : Nat) (trigger : Trigger) (action : Action)
    {exits : Nat} (counted : exits = exitsIn sim.events + if trigger = .exit then 1 else 0)
    (walked : Walked known starting (names.take exits) (names.drop exits) base)
    (resumed : min exits names.length =
      min (exitsIn sim.events) names.length + if trigger = .exit ∧ action = .resume then 1 else 0) :
    Walks known starting names (base.record tick trigger action) := by
  have total : exitsIn (base.record tick trigger action).events = exits := by
    rw [exitsIn_record, events, counted]
  refine ⟨?_, ?_⟩
  · rw [total]
    exact walked.record tick trigger action
  · rw [total, countP_resumed_record, events, h.resumed, resumed]

theorem firing_still (h : Walks known starting names sim)
    (still : trigger = .exit → names.length ≤ exitsIn sim.events) :
    Firing known starting names sim trigger (sim.fire trigger) := by
  have walked := h.walked.perform .synchronize rfl rfl
  have handled := walked.handle_still fun exit => List.drop_eq_nil_of_le (still exit)
  let exits := exitsIn sim.events + if trigger = .exit then 1 else 0
  have same : names.take exits = names.take (exitsIn sim.events) ∧
      names.drop exits = names.drop (exitsIn sim.events) := by
    by_cases exit : trigger = .exit
    · have past := still exit
      simp only [exits, if_pos exit]
      rw [List.take_of_length_le past, List.take_of_length_le (Nat.le_succ_of_le past),
        List.drop_eq_nil_of_le past, List.drop_eq_nil_of_le (Nat.le_succ_of_le past)]
      exact ⟨rfl, rfl⟩
    · simp only [exits, if_neg exit, Nat.add_zero, and_self]
  rw [fire_of_handle_eq_ok handled]
  refine .still still (h.record ?_ _ trigger _ rfl ?_ ?_)
  · rfl
  · rw [same.1, same.2]
    exact walked
  · have length := congrArg List.length same.1
    rw [List.length_take, List.length_take] at length
    rw [length]
    cases trigger <;> simp [Trigger.defaultAction]

theorem firing_exit (h : Walks known starting names sim)
    (more : exitsIn sim.events < names.length) :
    Firing known starting names sim .exit (sim.fire .exit) := by
  have walked := h.walked.perform .synchronize rfl rfl
  have next := List.take_succ_eq_append_getElem more
  rw [List.drop_eq_getElem_cons more] at walked
  by_cases goes : names[exitsIn sim.events] ∈ known ∧
      names[exitsIn sim.events] ≠ (names.take (exitsIn sim.events)).getLastD starting
  · obtain ⟨after, handled, walked, events⟩ := walked.handle_switch goes
    rw [fire_of_handle_eq_ok handled]
    refine .switched rfl more (h.record events _ .exit _ rfl (next ▸ walked) ?_)
    rw [if_pos rfl, if_pos ⟨rfl, rfl⟩, Nat.min_eq_left more, Nat.min_eq_left (Nat.le_of_lt more)]
  · have stays : names[exitsIn sim.events] ∉ known ∨
        names[exitsIn sim.events] = (names.take (exitsIn sim.events)).getLastD starting := by
      rwa [not_and_or, not_not] at goes
    rw [fire_of_handle_eq_error (walked.handle_refused stays)]
    exact .refused rfl ⟨⟨[], next⟩, h.walked.walkable, stays⟩ rfl rfl

theorem firing (h : Walks known starting names sim) (trigger : Trigger) :
    Firing known starting names sim trigger (sim.fire trigger) := by
  rcases toggles_or_still trigger names.length (exitsIn sim.events) with ⟨rfl, more⟩ | still
  · exact h.firing_exit more
  · exact h.firing_still still

/-- Every firing that succeeds keeps everybody in agreement. Only an exit that switches the
processor does not go by the rule for triggers without a handler. -/
theorem fires (h : Walks known starting names sim) (fires : Fires sim trigger action next) :
    Walks known starting names next ∧
      action =
        if trigger = .exit ∧ exitsIn sim.events < names.length then .resume
        else trigger.defaultAction := by
  have firing := h.firing trigger
  rw [fires.fire] at firing
  cases firing with
  | still still walks =>
    exact ⟨walks, (if_neg fun switches => Nat.not_le_of_lt switches.2 (still switches.1)).symm⟩
  | switched exit more walks => exact ⟨walks, (if_pos ⟨exit, more⟩).symm⟩

theorem keeps (first : Fires sim trigger action next) (h : Walks known starting names sim) :
    Walks known starting names next :=
  (h.fires first).1

/-- What stops the run, short of a cut-off, is an exit after those that switch the processor. -/
theorem lt_exitsIn_of_stop (h : Walks known starting names sim)
    (fires : Fires sim trigger .stop next) (uncut : trigger ≠ .maxTick) :
    names.length < exitsIn next.events := by
  have stops := (h.fires fires).2
  split at stops
  · cases stops
  · next still =>
    obtain rfl := (Trigger.eq_of_defaultAction_eq_stop stops.symm).resolve_right uncut
    rw [fires.exitsIn_events, if_pos rfl]
    exact Nat.lt_succ_of_le (Nat.le_of_not_lt fun more => still ⟨rfl, more⟩)

/-- A run that is stopped, and not by a cut-off among the guest's events, has gone to all names. -/
theorem lt_exitsIn_of_ending {pace : Pace} {pending : List GuestEvent}
    (h : Walks known starting names sim) (uncut : ∀ event ∈ pending, event.trigger ≠ .maxTick)
    {reason : ExitReason} (ending : Ending pace pending sim reason final) (exit : reason = .exit) :
    names.length < exitsIn final.events := by
  have ran := h.runQuantum pace.quantum
  cases ending with
  | cutOff => cases exit
  | stopped _ hpending _ _ passes fires =>
    refine (passes.keeps keeps ran).lt_exitsIn_of_stop fires ?_
    exact uncut _ (hpending ▸ List.mem_append_right _ List.mem_cons_self)
  | @finished _ _ action _ _ _ _ _ _ passes _ fires =>
    cases action with
    | stop =>
      exact (passes.keeps keeps ran).lt_exitsIn_of_stop fires nofun
    | resume => cases exit

theorem active_eq (h : Walks known starting names sim) :
    sim.machine.processor.active = (names.take (exitsIn sim.events)).getLastD starting := by
  obtain ⟨current, machine, -, active⟩ := h.walked.machine
  rw [machine]
  exact active

theorem swaps_eq (h : Walks known starting names sim) :
    sim.kernel.swaps = (names.take (exitsIn sim.events)).length :=
  congrArg Prod.snd h.walked.swapRecord

/-- Everybody still agrees when a run ends with a reason. -/
theorem ends {pace : Pace} {pending : List GuestEvent} {reason : ExitReason}
    (h : Walks known starting names sim) (ended : loop pace pending sim = (.ok reason, final)) :
    Walks known starting names final ∧
      ((∀ event ∈ pending, event.trigger ≠ .maxTick) → reason = .exit →
        names.length < exitsIn final.events) := by
  obtain ⟨pending', sim', ⟨before, left⟩, turned⟩ :=
    loop_ends
      (P := fun pending' sim =>
        Walks known starting names sim ∧ ∀ event ∈ pending', event ∈ pending)
      (fun goesOn ⟨walks, left⟩ =>
        ⟨goesOn.passes.keeps keeps (walks.runQuantum _), fun event mem =>
          left event (goesOn.pending ▸ List.mem_append_right _ mem)⟩)
      ⟨h, fun _ => id⟩
  rw [ended] at turned
  have ending := ending_of_turn turned
  refine ⟨ending.keeps keeps (fun ticks h => h.runQuantum ticks) before, fun uncut exit => ?_⟩
  exact before.lt_exitsIn_of_ending (fun event mem => uncut event (left event mem)) ending exit

/-- A run that fails does so at the exit whose turn it is to switch to the first bad name. -/
theorem fails {pace : Pace} {pending : List GuestEvent} (h : Walks known starting names sim)
    (failed : loop pace pending sim = (.error error, final)) :
    ∃ bad,
      FirstBad known starting (names.take (exitsIn final.events + 1))
        (names.take (exitsIn final.events)) bad ∧
      error =
        .processor (if bad ∈ known then .alreadyActive bad else .unknownConfiguration bad) ∧
      final.machine.processor.active = (names.take (exitsIn final.events)).getLastD starting ∧
      final.kernel.swaps = (names.take (exitsIn final.events)).length ∧
      final.events.map (·.trigger) ++ [.exit] =
        sim.events.map (·.trigger) ++ firingsFrom pace pending sim := by
  cases fails_of_loop keeps (fun ticks h => h.runQuantum ticks) h failed with
  | @intro mid trigger before fire last =>
    have firing := before.firing trigger
    rw [fire] at firing
    cases firing with
    | refused exit first machine swapRecord =>
      subst exit
      rw [events_of_fire_eq_error fire] at last ⊢
      refine ⟨_, first, rfl, ?_, ?_, last⟩
      · rw [machine, before.active_eq]
      · exact (congrArg Prod.snd swapRecord).trans before.swaps_eq

end Walks

/-! ## The run -/

variable {configurations : List Configuration} {processor : Processor} {kernel : Kernel}
  {workload : Workload} {config : RunConfig} {pace : Pace}

end Simulator

end Polycore
