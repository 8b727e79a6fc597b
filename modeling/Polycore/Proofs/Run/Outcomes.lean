import Polycore.Proofs.Run.Runs

/-!
# How runs come out

Two principles about the turns of a run. If every firing succeeds, then the run ends with a reason
(`Simulator.loop_succeeds`). If two simulators stay in step up to a firing that only fails in the
second one, then so do their runs: they come out alike, or the second one fails and the first one
goes on from there (`Simulator.loop_alike`).
-/

namespace Polycore.Simulator

variable {sim sim' : Simulator}

/-! ## Firings that succeed -/

section Success

variable {P : Simulator → Prop}
  (fires : ∀ {sim : Simulator} trigger, P sim →
    ∃ action next, sim.fire trigger = (.ok action, next) ∧ P next)

include fires

theorem deliver_succeeds (retired : Nat) (pending : List GuestEvent) (h : P sim) :
    ∃ delivery next, deliver retired pending sim = (.ok delivery, next) ∧ P next := by
  induction pending generalizing sim with
  | nil => exact ⟨_, sim, rfl, h⟩
  | cons event rest ih =>
    obtain ⟨action, next, fired, kept⟩ := fires event.trigger h
    unfold deliver
    split
    · exact ⟨_, sim, rfl, h⟩
    · rw [fired]
      cases action with
      | stop => exact ⟨_, next, rfl, kept⟩
      | resume => exact ih kept

variable (ran : ∀ {sim : Simulator} ticks, P sim → P (sim.runQuantum ticks))

include ran

theorem turn_succeeds (pace : Pace) (pending : List GuestEvent) (h : P sim) :
    (∃ reason final, sim.turn pace pending = .ended (.ok reason) final ∧ P final) ∨
      ∃ left next, sim.turn pace pending = .goesOn left next ∧ P next := by
  unfold turn
  split
  · obtain ⟨action, next, fired, kept⟩ := fires .maxTick h
    refine .inl ⟨.maxTick, next, ?_, kept⟩
    rw [cutOff, fired]
  · obtain ⟨delivery, next, delivered, kept⟩ := deliver_succeeds fires
      (sim.runQuantum pace.quantum).kernel.totalInstructions pending (ran pace.quantum h)
    dsimp only
    rw [delivered]
    cases delivery with
    | stopped => exact .inl ⟨_, next, rfl, kept⟩
    | passed left =>
      dsimp only
      split
      · obtain ⟨action, final, fired, kept⟩ := fires .exit kept
        rw [complete, fired]
        cases action with
        | stop => exact .inl ⟨_, final, rfl, kept⟩
        | resume => exact .inl ⟨_, final, rfl, kept⟩
      · exact .inr ⟨left, next, rfl, kept⟩

/-- Turns whose firings all succeed end with a reason. -/
theorem loop_succeeds (pace : Pace) (pending : List GuestEvent) (h : P sim) :
    ∃ reason final, loop pace pending sim = (.ok reason, final) ∧ P final := by
  induction pending, sim using loop.induct pace with
  | case1 pending sim result final ended =>
    rw [loop_of_turn_eq_ended ended]
    rcases turn_succeeds fires ran pace pending h with
      ⟨reason, _, ended', kept⟩ | ⟨_, _, goesOn, -⟩
    · cases ended.symm.trans ended'
      exact ⟨reason, final, rfl, kept⟩
    · cases ended.symm.trans goesOn
  | case2 pending sim left next goesOn ih =>
    rw [loop_of_turn_eq_goesOn goesOn]
    rcases turn_succeeds fires ran pace pending h with ⟨_, _, ended, -⟩ | ⟨_, _, goesOn', kept⟩
    · cases goesOn.symm.trans ended
    · cases goesOn.symm.trans goesOn'
      exact ih kept

end Success

/-! ## Two runs in step -/

/-- How one step of two simulators comes out: with the same answer, and in step, or with an error of
the second one. -/
inductive Alike {α : Type} (R : Simulator → Simulator → Prop) (H : Simulator → Prop)
    (F : RunError → Simulator → Prop) :
    Except RunError α × Simulator → Except RunError α × Simulator → Prop where
  | same {answer : Except RunError α} {sim sim' : Simulator} (h : R sim sim') :
    Alike R H F (answer, sim) (answer, sim')
  | failed {answer : Except RunError α} {error : RunError} {sim sim' : Simulator} (went : H sim)
    (failed : F error sim') : Alike R H F (answer, sim) (.error error, sim')

/-- How a turn of two simulators comes out: both go on in step, both end alike, or the second one
fails. -/
inductive TurnAlike (R : Simulator → Simulator → Prop) (H : Simulator → Prop)
    (F : RunError → Simulator → Prop) : Turn → Turn → Prop where
  | goOn {left : List GuestEvent} {next next' : Simulator} (h : R next next') :
    TurnAlike R H F (.goesOn left next) (.goesOn left next')
  | endBoth {result result' : Except RunError ExitReason} {final final' : Simulator}
    (h : Alike R H F (result, final) (result', final')) :
    TurnAlike R H F (.ended result final) (.ended result' final')
  | failed {turn : Turn} {error : RunError} {final : Simulator} (went : H turn.after)
    (failed : F error final) : TurnAlike R H F turn (.ended (.error error) final)

section InStep

variable {R : Simulator → Simulator → Prop} {H : Simulator → Prop}
  {F : RunError → Simulator → Prop}
  (fires : ∀ {sim sim' : Simulator} trigger, R sim sim' →
    Alike R H F (sim.fire trigger) (sim'.fire trigger))

include fires

theorem complete_alike (h : R sim sim') : Alike R H F sim.complete sim'.complete := by
  have fired := fires .exit h
  unfold complete
  generalize sim.fire .exit = outcome, sim'.fire .exit = outcome' at fired ⊢
  cases fired with
  | @same answer _ _ h => rcases answer with error | (_ | _) <;> exact .same h
  | @failed answer _ _ _ went failed =>
    rcases answer with error | (_ | _) <;> exact .failed went failed

theorem cutOff_alike (h : R sim sim') : Alike R H F sim.cutOff sim'.cutOff := by
  have fired := fires .maxTick h
  unfold cutOff
  generalize sim.fire .maxTick = outcome, sim'.fire .maxTick = outcome' at fired ⊢
  cases fired with
  | @same answer _ _ h => rcases answer with error | _ <;> exact .same h
  | @failed answer _ _ _ went failed => rcases answer with error | _ <;> exact .failed went failed

variable (later : ∀ {sim : Simulator} trigger, H sim → H (sim.fire trigger).2)

include later

theorem deliver_alike (retired : Nat) (pending : List GuestEvent) (h : R sim sim') :
    Alike R H F (deliver retired pending sim) (deliver retired pending sim') := by
  induction pending generalizing sim sim' with
  | nil => exact .same h
  | cons event rest ih =>
    have fired := fires event.trigger h
    unfold deliver
    split
    · exact .same h
    · generalize sim.fire event.trigger = outcome, sim'.fire event.trigger = outcome' at fired ⊢
      cases fired with
      | @same answer _ _ h =>
        rcases answer with error | (_ | _)
        · exact .same h
        · exact ih h
        · exact .same h
      | @failed answer _ sim _ went failed =>
        rcases answer with error | (_ | _)
        · exact .failed went failed
        · exact .failed (deliver_keeps later retired rest went) failed
        · exact .failed went failed

variable
  (agree : ∀ {sim sim' : Simulator}, R sim sim' →
    sim'.kernel.tick = sim.kernel.tick ∧
      sim'.kernel.totalInstructions = sim.kernel.totalInstructions ∧
      sim'.workload.instructions = sim.workload.instructions)
  (ran : ∀ {sim sim' : Simulator} ticks, R sim sim' →
    R (sim.runQuantum ticks) (sim'.runQuantum ticks))

include agree ran

theorem turn_alike (pace : Pace) (pending : List GuestEvent) (h : R sim sim') :
    TurnAlike R H F (sim.turn pace pending) (sim'.turn pace pending) := by
  have quantum := ran pace.quantum h
  have delivered := deliver_alike fires later
    (sim.runQuantum pace.quantum).kernel.totalInstructions pending quantum
  unfold turn
  rw [(agree h).1]
  split
  · exact .endBoth (cutOff_alike fires h)
  · dsimp only
    rw [(agree quantum).2.1]
    generalize deliver _ pending (sim.runQuantum pace.quantum) = outcome,
      deliver _ pending (sim'.runQuantum pace.quantum) = outcome' at delivered ⊢
    cases delivered with
    | @same answer _ _ h =>
      rcases answer with error | (_ | left)
      · exact .endBoth (.same h)
      · exact .endBoth (.same h)
      · dsimp only
        rw [(agree h).2.2]
        split
        · exact .endBoth (complete_alike fires h)
        · exact .goOn h
    | @failed answer _ _ _ went failed =>
      refine .failed ?_ failed
      rcases answer with error | (_ | left)
      · exact went
      · exact went
      · dsimp only
        split
        · exact complete_keeps later went
        · exact went

variable (laterRan : ∀ {sim : Simulator} ticks, H sim → H (sim.runQuantum ticks))

include laterRan

/-- Two simulators that stay in step come out alike, or the second one fails and the first one goes
on from there. -/
theorem loop_alike (pace : Pace) (pending : List GuestEvent) (h : R sim sim') :
    Alike R H F (loop pace pending sim) (loop pace pending sim') := by
  induction pending, sim using loop.induct pace generalizing sim' with
  | case1 pending sim result final ended =>
    have turned := turn_alike fires later agree ran pace pending h
    rw [ended] at turned
    rw [loop_of_turn_eq_ended ended]
    generalize turn' : sim'.turn pace pending = last at turned
    cases turned with
    | endBoth h =>
      rw [loop_of_turn_eq_ended turn']
      exact h
    | failed went failed =>
      rw [loop_of_turn_eq_ended turn']
      exact .failed went failed
  | case2 pending sim left next goesOn ih =>
    have turned := turn_alike fires later agree ran pace pending h
    rw [goesOn] at turned
    rw [loop_of_turn_eq_goesOn goesOn]
    generalize turn' : sim'.turn pace pending = last at turned
    cases turned with
    | goOn h =>
      rw [loop_of_turn_eq_goesOn turn']
      exact ih h
    | failed went failed =>
      rw [loop_of_turn_eq_ended turn']
      exact .failed (loop_keeps later laterRan pace left went) failed

end InStep

end Polycore.Simulator
