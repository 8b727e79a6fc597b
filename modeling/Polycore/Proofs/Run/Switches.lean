import Polycore.Proofs.Processor.CoreTypes
import Polycore.Proofs.Run.Schedules
import Polycore.Proofs.Run.Toggling

/-!
# Switches are accounted for

The report of a run that toggles its pair at the first exits of the guest tells how often it
switched, and the number of exits on record decides that, where the pair stands after every event
and why the run ended (`RunReport.Accounts`). Before every turn the exits on record are those of the
events that have fired, and there are not more of them than switches (`Simulator.Counted`). The
markers of the guest have to be annotations (`Workload.Annotated`): a cut-off among them stops the
run, and an exit among them is one more that toggles the pair.
-/

namespace Polycore

/-- The run goes on at all triggers without a handler but two. -/
theorem Trigger.eq_of_defaultAction_eq_stop {trigger : Trigger}
    (h : trigger.defaultAction = .stop) : trigger = .exit ∨ trigger = .maxTick := by
  cases trigger with
  | exit => exact .inl rfl
  | maxTick => exact .inr rfl
  | _ => cases h

/-- Why a run ended whose first `switches` exits toggle its pair says how many exits are on record:
of a guest with `points` exits of its own, and one more when it is done. -/
structure ExitReason.Explains (reason : ExitReason) (switches points exits : Nat) : Prop where
  exit : reason = .exit → exits = switches + 1
  workloadComplete : reason = .workloadComplete → exits = points + 1 ∧ exits ≤ switches
  maxTick : reason = .maxTick → exits ≤ switches ∧ exits ≤ points

namespace Simulator

variable {sim mid next final : Simulator} {pair : PairProcessor} {kernel : Kernel}
  {switches : Nat} {trigger : Trigger} {action : Action} {workload : Workload} {config : RunConfig}
  {pace : Pace} {passed pending left : List GuestEvent} {reason : ExitReason}

namespace InStep

/-- The run goes on after an exit if the exit toggles the pair. -/
theorem resume_iff (h : InStep pair switches sim) (fires : Fires sim .exit action next) :
    action = .resume ↔ exitsIn sim.events < switches := by
  rw [(h.fires fires).2]
  by_cases more : exitsIn sim.events < switches
  · simp [more]
  · simp [more, Trigger.defaultAction]

theorem passes (h : InStep pair switches sim) (few : exitsIn sim.events ≤ switches)
    (passes : Passes passed sim next) :
    InStep pair switches next ∧
      exitsIn next.events = exitsIn sim.events + passed.countP (·.trigger = .exit) ∧
      exitsIn next.events ≤ switches := by
  induction passes with
  | nil => exact ⟨h, rfl, few⟩
  | @cons event rest sim mid next first _ ih =>
    have counted := first.exitsIn_events
    have still : exitsIn mid.events ≤ switches := by
      by_cases exit : event.trigger = .exit
      · rw [exit] at first
        have more := (h.resume_iff first).mp rfl
        rw [counted, if_pos exit]
        exact more
      · rw [counted, if_neg exit]
        exact few
    obtain ⟨kept, total, bound⟩ := ih (h.fires first).1 still
    refine ⟨kept, ?_, bound⟩
    rw [total, counted, List.countP_cons]
    simp
    omega

end InStep

/-- What holds before every turn: the exits on record are those of the events that have fired. -/
structure Counted (pair : PairProcessor) (switches : Nat) (workload : Workload)
    (pending : List GuestEvent) (sim : Simulator) : Prop where
  inStep : InStep pair switches sim
  few : exitsIn sim.events ≤ switches
  fired : ∃ fired, workload.schedule = fired ++ pending ∧
    exitsIn sim.events = fired.countP (·.trigger = .exit)
  workload : sim.workload = workload

namespace Counted

/-- The counts go along with the events that fire after a quantum. -/
theorem passes (h : Counted pair switches workload (passed ++ left) sim) (ticks : Nat)
    (passes : Passes passed (sim.runQuantum ticks) next) :
    Counted pair switches workload left next := by
  obtain ⟨fired, split, counted⟩ := h.fired
  obtain ⟨inStep, total, few⟩ := (h.inStep.runQuantum ticks).passes h.few passes
  refine ⟨inStep, few, ⟨fired ++ passed, ?_, ?_⟩, passes.workload.trans h.workload⟩
  · rw [split, List.append_assoc]
  · rw [total, List.countP_append, ← counted]
    rfl

theorem goesOn (h : Counted pair switches workload pending sim)
    (goesOn : GoesOn pace pending left sim next passed) :
    Counted pair switches workload left next := by
  obtain ⟨-, -, rfl, -, -, passes, -⟩ := goesOn
  exact h.passes pace.quantum passes

theorem exitsIn_le (h : Counted pair switches workload pending sim)
    (annotated : workload.Annotated) : exitsIn sim.events ≤ workload.exitPoints.length := by
  obtain ⟨fired, split, counted⟩ := h.fired
  rw [counted, ← annotated.countP_exit_schedule, split, List.countP_append]
  exact Nat.le_add_right _ _

/-- Once all events have fired, the exits on record are those of the exit points. -/
theorem exitsIn_eq (h : Counted pair switches workload [] sim) (annotated : workload.Annotated) :
    exitsIn sim.events = workload.exitPoints.length := by
  obtain ⟨fired, split, counted⟩ := h.fired
  rw [counted, ← annotated.countP_exit_schedule, split, List.append_nil]

/-- An exit that stops the run is the one after those that toggle the pair. -/
theorem exitsIn_of_stop (h : Counted pair switches workload pending mid)
    (fires : Fires mid .exit .stop final) : exitsIn final.events = switches + 1 := by
  have enough : ¬exitsIn mid.events < switches :=
    fun more => nomatch (h.inStep.resume_iff fires).mpr more
  have few := h.few
  rw [fires.exitsIn_events, if_pos rfl]
  omega

end Counted

theorem Counted.ends (h : Counted pair switches workload pending sim)
    (annotated : workload.Annotated) (valid : workload.error? = none)
    (ending : Ending pace pending sim reason final) :
    InStep pair switches final ∧
      reason.Explains switches workload.exitPoints.length (exitsIn final.events) := by
  cases ending with
  | cutOff _ fires =>
    have total := fires.exitsIn_events
    rw [if_neg (by decide), Nat.add_zero] at total
    refine ⟨(h.inStep.fires fires).1, nofun, nofun, fun _ => ?_⟩
    rw [total]
    exact ⟨h.few, h.exitsIn_le annotated⟩
  | @stopped passed left event mid _ _ hpending _ _ passes fires =>
    subst hpending
    have counted := h.passes pace.quantum passes
    obtain ⟨kept, stops⟩ := counted.inStep.fires fires
    have exit : event.trigger = .exit := by
      obtain ⟨fired, split, -⟩ := h.fired
      have uncut : event.trigger ≠ .maxTick := annotated.trigger_ne_maxTick (by simp [split])
      by_contra other
      rw [if_neg fun toggles => other toggles.1] at stops
      exact (Trigger.eq_of_defaultAction_eq_stop stops.symm).elim other uncut
    rw [exit] at fires
    exact ⟨kept, fun _ => counted.exitsIn_of_stop fires, nofun, nofun⟩
  | @finished passed left action mid _ _ hpending _ undue passes done fires =>
    subst hpending
    have counted := h.passes pace.quantum passes
    obtain ⟨fired, split, -⟩ := h.fired
    rw [h.workload] at done
    rw [← List.append_assoc] at split
    obtain rfl := Workload.eq_nil_of_undue valid split undue done
    refine ⟨(counted.inStep.fires fires).1, ?_⟩
    cases action with
    | stop => exact ⟨fun _ => counted.exitsIn_of_stop fires, nofun, nofun⟩
    | resume =>
      have more := (counted.inStep.resume_iff fires).mp rfl
      refine ⟨nofun, fun _ => ?_, nofun⟩
      rw [fires.exitsIn_events, if_pos rfl, counted.exitsIn_eq annotated]
      rw [counted.exitsIn_eq annotated] at more
      exact ⟨rfl, more⟩

/-! ## Runs -/

/-- A guest of ten instructions with one marker, at the fifth. -/
def marked (trigger : Trigger) : Workload where
  name := "marked"
  instructions := 10
  markers := [⟨5, trigger⟩]

end Simulator

end Polycore
