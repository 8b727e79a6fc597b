import Polycore.Proofs.Run.Firing

/-!
# Turns of a run

What a turn does, read off how it comes out: a turn after which the run goes on is `GoesOn`, and
every way to end a run with a report is a case of `Ending`. A run is a sequence of the former and
then one of the latter, so what the turns keep holds at the turn that ends the run
(`Simulator.loop_ends`).
-/

namespace Polycore.Simulator

variable {sim mid next final : Simulator} {pace : Pace} {pending left passed : List GuestEvent}
  {retired : Nat}

/-! ## Deliveries -/

/-- Some events fire one after the other, and the run goes on after each of them. -/
inductive Passes : List GuestEvent → Simulator → Simulator → Prop where
  | nil {sim : Simulator} : Passes [] sim sim
  | cons {event : GuestEvent} {rest : List GuestEvent} {sim mid next : Simulator}
    (first : Fires sim event.trigger .resume mid) (later : Passes rest mid next) :
    Passes (event :: rest) sim next

namespace Passes

theorem total (h : Passes passed sim next) :
    next.kernel.totalInstructions = sim.kernel.totalInstructions := by
  induction h with
  | nil => rfl
  | cons first _ ih => exact ih.trans first.total

theorem workload (h : Passes passed sim next) : next.workload = sim.workload := by
  induction h with
  | nil => rfl
  | cons first _ ih => exact ih.trans first.workload

/-- What every firing that succeeds keeps holds after some of them. -/
theorem keeps {P : Simulator → Prop} (h : Passes passed sim next)
    (fires : ∀ {sim next : Simulator} {trigger : Trigger} {action : Action},
      Fires sim trigger action next → P sim → P next)
    (before : P sim) : P next := by
  induction h with
  | nil => exact before
  | cons first _ ih => exact ih (fires first before)

end Passes

/-- The events that are due are those up to the first that is not. -/
theorem passes_of_deliver (h : deliver retired pending sim = (.ok (.passed left), next)) :
    ∃ passed, pending = passed ++ left ∧ (∀ event ∈ passed, event.count ≤ retired) ∧
      (∀ event ∈ left.head?, retired < event.count) ∧ Passes passed sim next := by
  induction pending generalizing sim with
  | nil =>
    cases h
    exact ⟨[], rfl, nofun, nofun, .nil⟩
  | cons event rest ih =>
    unfold deliver at h
    split at h
    · next early =>
      cases h
      exact ⟨[], rfl, nofun, fun _ first => Option.mem_some.mp first ▸ early, .nil⟩
    · next due =>
      split at h
      · cases h
      · cases h
      · next fired =>
        obtain ⟨passed, rfl, counts, first, passes⟩ := ih h
        exact ⟨event :: passed, rfl, List.forall_mem_cons.mpr ⟨Nat.le_of_not_lt due, counts⟩,
          first, .cons (fires_of_fire fired) passes⟩

theorem stops_of_deliver (h : deliver retired pending sim = (.ok .stopped, next)) :
    ∃ passed event left mid, pending = passed ++ event :: left ∧
      (∀ event ∈ passed, event.count ≤ retired) ∧ event.count ≤ retired ∧
      Passes passed sim mid ∧ Fires mid event.trigger .stop next := by
  induction pending generalizing sim with
  | nil => cases h
  | cons event rest ih =>
    unfold deliver at h
    split at h
    · cases h
    · next due =>
      split at h
      · cases h
      · next fired =>
        cases h
        exact ⟨[], event, rest, sim, rfl, nofun, Nat.le_of_not_lt due, .nil, fires_of_fire fired⟩
      · next fired =>
        obtain ⟨passed, last, left, mid, rfl, counts, count, passes, stop⟩ := ih h
        exact ⟨event :: passed, last, left, mid, rfl,
          List.forall_mem_cons.mpr ⟨Nat.le_of_not_lt due, counts⟩, count,
          .cons (fires_of_fire fired) passes, stop⟩

/-! ## How a turn comes out -/

/-- A turn after which the run goes on: a quantum before the cut-off, and the events that are due
after it, while the guest has more to do. -/
structure GoesOn (pace : Pace) (pending left : List GuestEvent) (sim next : Simulator)
    (passed : List GuestEvent) : Prop where
  turn : sim.turn pace pending = .goesOn left next
  early : sim.kernel.tick < pace.maxTicks
  pending : pending = passed ++ left
  due : ∀ event ∈ passed, event.count ≤ (sim.runQuantum pace.quantum).kernel.totalInstructions
  undue : ∀ event ∈ left.head?,
    (sim.runQuantum pace.quantum).kernel.totalInstructions < event.count
  passes : Passes passed (sim.runQuantum pace.quantum) next
  unfinished :
    (sim.runQuantum pace.quantum).kernel.totalInstructions < sim.workload.instructions

/-- A turn that ends the run with a reason. -/
inductive Ending (pace : Pace) (pending : List GuestEvent) (sim : Simulator) :
    ExitReason → Simulator → Prop where
  /-- the run is cut off in place of a quantum -/
  | cutOff {action : Action} {final : Simulator} (late : pace.maxTicks ≤ sim.kernel.tick)
    (fires : Fires sim .maxTick action final) : Ending pace pending sim .maxTick final
  /-- an event that is due stops the run -/
  | stopped {passed left : List GuestEvent} {event : GuestEvent} {mid final : Simulator}
    (early : sim.kernel.tick < pace.maxTicks) (hpending : pending = passed ++ event :: left)
    (due : ∀ event ∈ passed, event.count ≤ (sim.runQuantum pace.quantum).kernel.totalInstructions)
    (last : event.count ≤ (sim.runQuantum pace.quantum).kernel.totalInstructions)
    (passes : Passes passed (sim.runQuantum pace.quantum) mid)
    (fires : Fires mid event.trigger .stop final) : Ending pace pending sim .exit final
  /-- the guest is done, and its last exit fires -/
  | finished {passed left : List GuestEvent} {action : Action} {mid final : Simulator}
    (early : sim.kernel.tick < pace.maxTicks) (hpending : pending = passed ++ left)
    (due : ∀ event ∈ passed, event.count ≤ (sim.runQuantum pace.quantum).kernel.totalInstructions)
    (undue : ∀ event ∈ left.head?,
      (sim.runQuantum pace.quantum).kernel.totalInstructions < event.count)
    (passes : Passes passed (sim.runQuantum pace.quantum) mid)
    (done : sim.workload.instructions ≤ (sim.runQuantum pace.quantum).kernel.totalInstructions)
    (fires : Fires mid .exit action final) :
    Ending pace pending sim (if action = .stop then .exit else .workloadComplete) final

theorem goesOn_of_turn (h : sim.turn pace pending = .goesOn left next) :
    ∃ passed, GoesOn pace pending left sim next passed := by
  have turned := h
  unfold turn at h
  split at h
  · cases h
  · next early =>
    dsimp only at h
    split at h
    · cases h
    · cases h
    · next delivered =>
      obtain ⟨passed, hpending, due, undue, passes⟩ := passes_of_deliver delivered
      split at h
      · cases h
      · next unfinished =>
        cases h
        rw [passes.workload] at unfinished
        exact ⟨passed, turned, Nat.lt_of_not_le early, hpending, due, undue, passes,
          Nat.lt_of_not_le unfinished⟩

theorem fires_of_cutOff {reason : ExitReason} (h : sim.cutOff = (.ok reason, final)) :
    reason = .maxTick ∧ ∃ action, Fires sim .maxTick action final := by
  unfold cutOff at h
  split at h
  · cases h
  · next fired =>
    cases h
    exact ⟨rfl, _, fires_of_fire fired⟩

theorem fires_of_complete {reason : ExitReason} (h : sim.complete = (.ok reason, final)) :
    ∃ action, reason = (if action = .stop then .exit else .workloadComplete) ∧
      Fires sim .exit action final := by
  unfold complete at h
  split at h
  · cases h
  · next fired =>
    cases h
    exact ⟨.stop, rfl, fires_of_fire fired⟩
  · next fired =>
    cases h
    exact ⟨.resume, rfl, fires_of_fire fired⟩

theorem ending_of_turn {reason : ExitReason}
    (h : sim.turn pace pending = .ended (.ok reason) final) :
    Ending pace pending sim reason final := by
  unfold turn at h
  split at h
  · next late =>
    rw [Turn.ended.injEq] at h
    obtain ⟨rfl, action, fires⟩ := fires_of_cutOff (Prod.ext h.1 h.2)
    exact .cutOff late fires
  · next early =>
    dsimp only at h
    split at h
    · cases h
    · next delivered =>
      cases h
      obtain ⟨passed, event, left, mid, hpending, due, last, passes, fires⟩ :=
        stops_of_deliver delivered
      exact .stopped (Nat.lt_of_not_le early) hpending due last passes fires
    · next delivered =>
      obtain ⟨passed, hpending, due, undue, passes⟩ := passes_of_deliver delivered
      split at h
      · next done =>
        rw [passes.workload] at done
        rw [Turn.ended.injEq] at h
        obtain ⟨action, rfl, fires⟩ := fires_of_complete (Prod.ext h.1 h.2)
        exact .finished (Nat.lt_of_not_le early) hpending due undue passes done fires
      · cases h

/-- What quanta and firings that succeed keep holds at the end of a run. -/
theorem Ending.keeps {P : Simulator → Prop} {reason : ExitReason}
    (ending : Ending pace pending sim reason final)
    (fires : ∀ {sim next : Simulator} {trigger : Trigger} {action : Action},
      Fires sim trigger action next → P sim → P next)
    (ran : ∀ {sim : Simulator} ticks, P sim → P (sim.runQuantum ticks)) (h : P sim) : P final := by
  cases ending with
  | cutOff _ last => exact fires last h
  | stopped _ _ _ _ passes last => exact fires last (passes.keeps fires (ran pace.quantum h))
  | finished _ _ _ _ passes _ last => exact fires last (passes.keeps fires (ran pace.quantum h))

/-! ## The run -/

theorem loop_of_turn_eq_ended {result : Except RunError ExitReason}
    (h : sim.turn pace pending = .ended result final) :
    loop pace pending sim = (result, final) := by
  rw [loop]
  split
  · next ended =>
    cases h.symm.trans ended
    rfl
  · next turned => cases h.symm.trans turned

theorem loop_of_turn_eq_goesOn (h : sim.turn pace pending = .goesOn left next) :
    loop pace pending sim = loop pace left next := by
  rw [loop]
  split
  · next ended => cases h.symm.trans ended
  · next turned =>
    cases h.symm.trans turned
    rfl

/-- What every turn keeps holds at the turn that ends the run. -/
theorem loop_ends {P : List GuestEvent → Simulator → Prop}
    (step : ∀ {pending left sim next passed}, GoesOn pace pending left sim next passed →
      P pending sim → P left next)
    (h : P pending sim) :
    ∃ pending' sim', P pending' sim' ∧
      sim'.turn pace pending' = .ended (loop pace pending sim).1 (loop pace pending sim).2 := by
  induction pending, sim using loop.induct pace with
  | case1 pending sim result final ended =>
    rw [loop_of_turn_eq_ended ended]
    exact ⟨pending, sim, h, ended⟩
  | case2 pending sim left next turned ih =>
    obtain ⟨passed, goesOn⟩ := goesOn_of_turn turned
    rw [loop_of_turn_eq_goesOn turned]
    exact ih (step goesOn h)

theorem ending_of_loop {reason : ExitReason} (h : loop pace pending sim = (.ok reason, final)) :
    ∃ pending' sim', Ending pace pending' sim' reason final := by
  obtain ⟨pending', sim', -, turned⟩ :=
    loop_ends (P := fun pending sim => loop pace pending sim = (.ok reason, final))
      (fun goesOn same => (loop_of_turn_eq_goesOn goesOn.turn).symm.trans same) h
  rw [h] at turned
  exact ⟨pending', sim', ending_of_turn turned⟩

end Polycore.Simulator
