import Mathlib.Algebra.Order.Floor.Div
import Polycore.Proofs.Kernel.Horizon
import Polycore.Proofs.Run.Delivery

/-!
# The budget of a run

Whatever its models and its handlers do, a run takes no more quanta than fit before the cut-off
(`Simulator.length_quantaFrom_le`), and fires every event of the schedule at most once, and then
one trigger of its own (`Simulator.length_firingsFrom_le`). Firings do not move the furthest
timeline, so the quanta bound how far it comes (`Simulator.horizon_loop_le`). All inductions are on
the turns.
-/

namespace Polycore

/-- A move takes no time: it leaves the furthest timeline where it is. -/
theorem Session.horizon_move_le {session : Session} {bound : Nat}
    (h : session.kernel.clocks.horizon ≤ bound) (move : Move) :
    (session.perform (.move move)).kernel.clocks.horizon ≤ bound :=
  kernel_move_keeps (P := fun kernel => kernel.clocks.horizon ≤ bound)
    (fun _ h => Kernel.horizon_perform_le h rfl) (fun _ h => Kernel.horizon_perform_le h rfl) h move

namespace Simulator

variable {sim next final : Simulator} {pace : Pace} {pending left : List GuestEvent}
  {retired : Nat}

/-! ## Firings -/

/-- The triggers that fire when the events that are due are delivered. The last of them is the one
that stopped the run or failed, if one did. -/
def deliveryFirings (retired : Nat) : List GuestEvent → Simulator → List Trigger
  | [], _ => []
  | event :: rest, sim =>
    if retired < event.count then []
    else
      event.trigger ::
        match sim.fire event.trigger with
        | (.ok .resume, next) => deliveryFirings retired rest next
        | _ => []

/-- The triggers that a turn fires. -/
def turnFirings (pace : Pace) (pending : List GuestEvent) (sim : Simulator) : List Trigger :=
  if pace.maxTicks ≤ sim.kernel.tick then [.maxTick]
  else
    let ran := sim.runQuantum pace.quantum
    let retired := ran.kernel.totalInstructions
    deliveryFirings retired pending ran ++
      match deliver retired pending ran with
      | (.ok (.passed _), next) => if next.workload.instructions ≤ retired then [.exit] else []
      | _ => []

/-- The triggers that a run fires from some turn on. -/
def firingsFrom (pace : Pace) (pending : List GuestEvent) (sim : Simulator) : List Trigger :=
  sim.turnFirings pace pending ++
    match _ : sim.turn pace pending with
    | .ended _ _ => []
    | .goesOn left next => firingsFrom pace left next
termination_by pace.maxTicks - sim.kernel.tick
decreasing_by
  have := tick_of_turn_eq_goesOn ‹sim.turn pace pending = _›
  have := pace.quantum_pos
  omega

/-- The triggers that a run fires. -/
def firings (sim : Simulator) : List Trigger :=
  match sim.start with
  | (.error _, _) => []
  | (.ok pace, started) => firingsFrom pace started.workload.schedule started

theorem firingsFrom_of_turn_eq_goesOn (h : sim.turn pace pending = .goesOn left next) :
    firingsFrom pace pending sim = sim.turnFirings pace pending ++ firingsFrom pace left next := by
  rw [firingsFrom]
  split
  · next ended => cases h.symm.trans ended
  · next turned =>
    cases h.symm.trans turned
    rfl

theorem firingsFrom_of_turn_eq_ended {result : Except RunError ExitReason}
    (h : sim.turn pace pending = .ended result final) :
    firingsFrom pace pending sim = sim.turnFirings pace pending := by
  rw [firingsFrom]
  split
  · exact List.append_nil _
  · next turned => cases h.symm.trans turned

/-! ## Every event fires at most once -/

theorem length_deliveryFirings_le (retired : Nat) (pending : List GuestEvent) (sim : Simulator) :
    (deliveryFirings retired pending sim).length ≤ pending.length := by
  induction pending generalizing sim with
  | nil => exact Nat.le_refl _
  | cons event rest ih =>
    unfold deliveryFirings
    split
    · exact Nat.zero_le _
    · rw [List.length_cons, List.length_cons]
      split
      · exact Nat.succ_le_succ (ih _)
      · exact Nat.succ_le_succ (Nat.zero_le _)

/-- An event that a delivery leaves has not fired. -/
theorem length_deliveryFirings_of_passed
    (h : deliver retired pending sim = (.ok (.passed left), next)) :
    (deliveryFirings retired pending sim).length + left.length = pending.length := by
  induction pending generalizing sim with
  | nil =>
    cases h
    rfl
  | cons event rest ih =>
    unfold deliver at h
    unfold deliveryFirings
    split at h
    · next early =>
      cases h
      rw [if_pos early]
      exact Nat.zero_add _
    · next due =>
      rw [if_neg due]
      split at h
      · cases h
      · cases h
      · next fired =>
        have rest := ih h
        simp only [fired, List.length_cons]
        omega

theorem length_turnFirings_le (pace : Pace) (pending : List GuestEvent) (sim : Simulator) :
    (sim.turnFirings pace pending).length ≤ pending.length + 1 := by
  unfold turnFirings
  split
  · exact Nat.le_add_left 1 _
  · have delivered := length_deliveryFirings_le
      (sim.runQuantum pace.quantum).kernel.totalInstructions pending (sim.runQuantum pace.quantum)
    rw [List.length_append]
    refine Nat.add_le_add delivered ?_
    split
    · split
      · exact Nat.le_refl _
      · exact Nat.zero_le _
    · exact Nat.zero_le _

theorem length_turnFirings_of_goesOn (h : sim.turn pace pending = .goesOn left next) :
    (sim.turnFirings pace pending).length + left.length = pending.length := by
  unfold turn at h
  unfold turnFirings
  split at h
  · cases h
  · next early =>
    rw [if_neg early]
    dsimp only at h ⊢
    split at h
    · cases h
    · cases h
    · next delivered =>
      split at h
      · cases h
      · next unfinished =>
        cases h
        rw [delivered]
        simp only [if_neg unfinished, List.append_nil]
        exact length_deliveryFirings_of_passed delivered

/-- From any turn on, the events still to come fire at most once, and one more trigger ends the
run. -/
theorem length_firingsFrom_le (pace : Pace) (pending : List GuestEvent) (sim : Simulator) :
    (firingsFrom pace pending sim).length ≤ pending.length + 1 := by
  induction pending, sim using loop.induct pace with
  | case1 pending sim result final ended =>
    rw [firingsFrom_of_turn_eq_ended ended]
    exact length_turnFirings_le pace pending sim
  | case2 pending sim left next goesOn ih =>
    have turned := length_turnFirings_of_goesOn goesOn
    rw [firingsFrom_of_turn_eq_goesOn goesOn, List.length_append]
    omega

/-! ## Every firing leaves a record -/

theorem triggers_of_deliver {delivery : Delivery}
    (h : deliver retired pending sim = (.ok delivery, next)) :
    next.events.map (·.trigger) =
      sim.events.map (·.trigger) ++ deliveryFirings retired pending sim := by
  induction pending generalizing sim with
  | nil =>
    cases h
    exact (List.append_nil _).symm
  | cons event rest ih =>
    unfold deliver at h
    unfold deliveryFirings
    split at h
    · next early =>
      cases h
      rw [if_pos early, List.append_nil]
    · next due =>
      rw [if_neg due]
      split at h
      · cases h
      · next fired =>
        cases h
        simp [fired, (fires_of_fire fired).events, entry]
      · next fired =>
        simp [fired, ih h, (fires_of_fire fired).events, entry]

theorem triggers_of_turn_eq_goesOn (h : sim.turn pace pending = .goesOn left next) :
    next.events.map (·.trigger) = sim.events.map (·.trigger) ++ sim.turnFirings pace pending := by
  unfold turn at h
  unfold turnFirings
  split at h
  · cases h
  · next early =>
    rw [if_neg early]
    dsimp only at h ⊢
    split at h
    · cases h
    · cases h
    · next delivered =>
      split at h
      · cases h
      · next unfinished =>
        cases h
        rw [triggers_of_deliver delivered, delivered]
        simp only [if_neg unfinished, List.append_nil]
        rfl

theorem triggers_of_turn_eq_ended {reason : ExitReason}
    (h : sim.turn pace pending = .ended (.ok reason) final) :
    final.events.map (·.trigger) =
      sim.events.map (·.trigger) ++ sim.turnFirings pace pending := by
  unfold turn at h
  unfold turnFirings
  split at h
  · next late =>
    rw [Turn.ended.injEq] at h
    obtain ⟨-, action, fires⟩ := fires_of_cutOff (Prod.ext h.1 h.2)
    rw [if_pos late, fires.events, List.map_append]
    rfl
  · next early =>
    rw [if_neg early]
    dsimp only at h ⊢
    split at h
    · cases h
    · next delivered =>
      cases h
      rw [triggers_of_deliver delivered, delivered, List.append_nil]
      rfl
    · next delivered =>
      split at h
      · next done =>
        rw [Turn.ended.injEq] at h
        obtain ⟨action, -, fires⟩ := fires_of_complete (Prod.ext h.1 h.2)
        rw [fires.events, List.map_append, triggers_of_deliver delivered, delivered]
        simp only [if_pos done, List.append_assoc]
        rfl
      · cases h

/-- A run with a report recorded every trigger that it fired. -/
theorem triggers_of_loop {reason : ExitReason} (h : loop pace pending sim = (.ok reason, final)) :
    final.events.map (·.trigger) =
      sim.events.map (·.trigger) ++ firingsFrom pace pending sim := by
  induction pending, sim using loop.induct pace with
  | case1 pending sim result last ended =>
    rw [loop_of_turn_eq_ended ended, Prod.mk.injEq] at h
    rw [firingsFrom_of_turn_eq_ended ended]
    exact triggers_of_turn_eq_ended (h.1 ▸ h.2 ▸ ended)
  | case2 pending sim left next goesOn ih =>
    rw [loop_of_turn_eq_goesOn goesOn] at h
    rw [firingsFrom_of_turn_eq_goesOn goesOn, ih h, triggers_of_turn_eq_goesOn goesOn,
      List.append_assoc]

/-! ## Quanta fit before the cut-off -/

/-- Every quantum began before the cut-off, and the quanta before it took their ticks. -/
theorem lt_maxTicks_of_lt_length {place : Nat}
    (h : place < (quantaFrom pace pending sim).length) :
    sim.kernel.tick + place * pace.quantum < pace.maxTicks := by
  induction pending, sim using loop.induct pace generalizing place with
  | case1 pending sim result final ended =>
    rw [quantaFrom_of_turn_eq_ended ended] at h
    split at h
    · next early =>
      obtain rfl := Nat.lt_one_iff.mp h
      simpa using early
    · cases h
  | case2 pending sim left next goesOn ih =>
    obtain ⟨early, later⟩ := tick_of_turn_eq_goesOn goesOn
    rw [quantaFrom_of_turn_eq_goesOn goesOn, List.length_cons] at h
    cases place with
    | zero => simpa using early
    | succ place =>
      have fits := ih (Nat.lt_of_succ_lt_succ h)
      rw [Nat.succ_mul]
      omega

/-- A run takes at most as many quanta as it needs to cover the ticks up to the cut-off. -/
theorem length_quantaFrom_le (pace : Pace) (pending : List GuestEvent) (sim : Simulator) :
    (quantaFrom pace pending sim).length ≤ pace.maxTicks ⌈/⌉ pace.quantum := by
  by_contra more
  have fits := lt_maxTicks_of_lt_length (Nat.lt_of_not_le more)
  have covered : pace.maxTicks ≤ pace.quantum * (pace.maxTicks ⌈/⌉ pace.quantum) :=
    le_smul_ceilDiv pace.quantum_pos
  rw [Nat.mul_comm] at covered
  omega

/-! ## How far the furthest timeline comes -/

theorem horizon_fire_le {bound : Nat} (h : sim.kernel.clocks.horizon ≤ bound)
    (trigger : Trigger) : (sim.fire trigger).2.kernel.clocks.horizon ≤ bound :=
  fire_keeps (P := fun session => session.kernel.clocks.horizon ≤ bound)
    (fun h => Kernel.horizon_perform_le h rfl) (fun move h => Session.horizon_move_le h move) h
    trigger

/-- Only the quantum of a turn moves the furthest timeline. -/
theorem horizon_turn_le (reachable : sim.kernel.Reachable) (pace : Pace)
    (pending : List GuestEvent) :
    (sim.turn pace pending).after.kernel.clocks.horizon ≤
      sim.kernel.clocks.horizon +
        if sim.kernel.tick < pace.maxTicks then pace.quantum + pace.quantum / 16 else 0 := by
  refine turn_keeps_of_firings
    (Q := fun next => next.kernel.clocks.horizon ≤ sim.kernel.clocks.horizon +
      if sim.kernel.tick < pace.maxTicks then pace.quantum + pace.quantum / 16 else 0)
    (fun trigger h => horizon_fire_le h trigger) pace pending (fun _ => Nat.le_add_right _ _)
    fun early => ?_
  rw [if_pos early]
  exact Kernel.horizon_runQuantum_le reachable _ _

theorem horizon_loop_le (reachable : sim.kernel.Reachable) (pace : Pace)
    (pending : List GuestEvent) :
    (loop pace pending sim).2.kernel.clocks.horizon ≤
      sim.kernel.clocks.horizon +
        (quantaFrom pace pending sim).length * (pace.quantum + pace.quantum / 16) := by
  induction pending, sim using loop.induct pace with
  | case1 pending sim result final ended =>
    have turned := horizon_turn_le reachable pace pending
    rw [ended] at turned
    rw [loop_of_turn_eq_ended ended, quantaFrom_of_turn_eq_ended ended]
    refine Nat.le_trans turned (Nat.add_le_add_left (Nat.le_of_eq ?_) _)
    split
    · exact (Nat.one_mul _).symm
    · exact (Nat.zero_mul _).symm
  | case2 pending sim left next goesOn ih =>
    have turned := horizon_turn_le reachable pace pending
    have later : (sim.turn pace pending).after.kernel.Reachable :=
      turn_keeps (Q := fun sim => sim.kernel.Reachable)
        (fire_keeps_session (P := fun session => session.kernel.Reachable)
          fun request h => Session.reachable_perform h request)
        (fun ticks => .perform (.runQuantum ticks _) trivial) pace pending reachable
    rw [goesOn] at turned later
    rw [if_pos (tick_of_turn_eq_goesOn goesOn).1] at turned
    rw [loop_of_turn_eq_goesOn goesOn, quantaFrom_of_turn_eq_goesOn goesOn, List.length_cons,
      Nat.succ_mul]
    exact Nat.le_trans (ih later) (by simp only [Turn.after] at turned; omega)

/-! ## The budget -/

/-- A run ends within a known budget, whatever its handlers answer and however slow its models are.
On a kernel that has simulated no time it takes at most as many quanta as it needs to cover the
ticks up to the cut-off, and fires at most one trigger more than the schedule has events. If it ends
with a report, then the report tells of all these triggers, at least one quantum ran, and the final
tick is at most that of quanta which all ran ahead as far as they can. -/
theorem run_within_budget (fresh : sim.kernel.Fresh) :
    sim.quanta.length ≤ sim.config.maxTicks ⌈/⌉ sim.config.quantum ∧
      sim.firings.length ≤ sim.workload.schedule.length + 1 ∧
      ∀ report final, sim.run = (.ok report, final) →
        report.events.map (·.trigger) = sim.events.map (·.trigger) ++ sim.firings ∧
        1 ≤ sim.quanta.length ∧
        report.finalTick ≤ (sim.config.maxTicks ⌈/⌉ sim.config.quantum) *
          (sim.config.quantum + sim.config.quantum / 16) := by
  rcases start : sim.start with ⟨error | pace, started⟩
  · -- a run that does not start takes no turn
    refine ⟨?_, ?_, fun report final h => ?_⟩
    · simp [quanta, start]
    · simp [firings, start]
    · rw [run, start] at h
      cases h
  have hstarted := started_of_start start
  have fresh := hstarted.fresh fresh
  obtain ⟨quantum, maxTicks⟩ := RunConfig.pace_eq_ok hstarted.pace
  have quanta : sim.quanta = quantaFrom pace sim.workload.schedule started := by
    rw [Simulator.quanta, start, ← hstarted.workload]
  have firings : sim.firings = firingsFrom pace sim.workload.schedule started := by
    rw [Simulator.firings, start, ← hstarted.workload]
  have bound := length_quantaFrom_le pace sim.workload.schedule started
  rw [quanta, firings, ← quantum, ← maxTicks]
  refine ⟨bound, length_firingsFrom_le pace _ started, fun report final h => ?_⟩
  obtain ⟨_, _, reason, again, ended, rfl⟩ := started_of_run h
  cases start.symm.trans again.start
  refine ⟨?_, ?_, ?_⟩
  · rw [← hstarted.events]
    exact triggers_of_loop ended
  · have early : started.kernel.tick < pace.maxTicks := by
      rw [fresh.tick_eq_zero]
      exact Nat.lt_of_lt_of_le pace.quantum_pos pace.quantum_le
    rw [quantaFrom, if_pos early]
    exact Nat.le_add_left _ _
  · have ahead := horizon_loop_le fresh.reachable pace sim.workload.schedule
    rw [ended, fresh.horizon_eq_zero, Nat.zero_add] at ahead
    calc final.kernel.tick ≤ final.kernel.clocks.horizon := final.kernel.clocks.shared_le_horizon
      _ ≤ _ := ahead
      _ ≤ _ := Nat.mul_le_mul_right _ bound

theorem run_within_budget_duo :
    duo.quanta.length ≤ 10 ∧ duo.firings.length ≤ 2 ∧
      ∃ report final, duo.run = (.ok report, final) ∧
        report.events.map (·.trigger) = duo.firings ∧ 1 ≤ duo.quanta.length ∧
        report.finalTick ≤ 100 := by
  have fresh : duo.kernel.Fresh := Kernel.fresh_duo
  obtain ⟨quanta, firings, ends⟩ := run_within_budget fresh
  obtain ⟨report, final, h⟩ := exists_run_duo
  rw [schedule_duo] at firings
  exact ⟨quanta, firings, report, final, h, ends report final h⟩

end Simulator

end Polycore
