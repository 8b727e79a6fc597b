import Polycore.Proofs.Processor.Machines
import Polycore.Proofs.Run.Runs

/-!
# Repeated calls for a run

A simulator makes one run. A call that fails at a check, or with a machine that cannot join the
board, leaves at most bindings behind (`Simulator.start_of_not_admitted`). A call that gets past
that (`Simulator.Admitted`) is the last to do anything, whatever comes of it: from then on the
machine is part of a board, and a call finds that before it changes anything
(`Simulator.run_of_isIncorporated`). The main statement is `Simulator.runs_at_most_once`.
-/

namespace Polycore.Simulator

variable {sim : Simulator} {pace : Pace}

/-! ## What a run leaves alone -/

theorem loop_frame (pace : Pace) (pending : List GuestEvent) (sim : Simulator) :
    (loop pace pending sim).2.workload = sim.workload ∧
      (loop pace pending sim).2.config = sim.config := by
  refine loop_keeps (Q := fun next => next.workload = sim.workload ∧ next.config = sim.config)
    (fun {next} trigger same => ?_) (fun _ same => same) pace pending ⟨rfl, rfl⟩
  obtain ⟨workload, config, -⟩ := next.fire_frame trigger
  exact ⟨workload.trans same.1, config.trans same.2⟩

theorem start_frame (sim : Simulator) :
    sim.start.2.workload = sim.workload ∧ sim.start.2.config = sim.config := by
  unfold start
  split
  · exact ⟨rfl, rfl⟩
  · split
    · exact ⟨rfl, rfl⟩
    · split
      · exact ⟨rfl, rfl⟩
      · split
        · exact ⟨rfl, rfl⟩
        · exact ⟨rfl, rfl⟩

theorem run_frame (sim : Simulator) :
    sim.run.2.workload = sim.workload ∧ sim.run.2.config = sim.config := by
  rcases sim.run_cases with ⟨_, -, last⟩ | ⟨pace, started, hstarted, last⟩
  · rw [last]
    exact sim.start_frame
  · rw [last]
    obtain ⟨workload, config⟩ := loop_frame pace started.workload.schedule started
    exact ⟨workload.trans hstarted.workload, config.trans hstarted.config⟩

/-! ## One call -/

/-- A call for a run that gets past the checks and makes the machine part of the board. -/
structure Admitted (sim : Simulator) : Prop where
  paced : ∃ pace, sim.config.pace = .ok pace
  valid : sim.workload.error? = none
  joins : (sim.machine.incorporate sim.kernel).1 = .ok ()

theorem start_of_not_admitted (barred : ¬ sim.Admitted) :
    ∃ error kernel, sim.start = (.error error, { sim with kernel }) ∧
      Kernel.SameWork sim.kernel kernel := by
  unfold start
  cases paced : sim.config.pace with
  | error error => exact ⟨_, sim.kernel, rfl, .refl _⟩
  | ok pace =>
    cases valid : sim.workload.error? with
    | some error => exact ⟨_, sim.kernel, rfl, .refl _⟩
    | none =>
      have same := sim.session.sameWork_incorporate
      rcases joined : sim.machine.incorporate sim.kernel with ⟨error | _, machine, kernel⟩
      · obtain ⟨rfl, -⟩ := Machine.of_incorporate_eq_error joined
        simp only [Session.perform, session, joined] at same
        exact ⟨_, kernel, rfl, same⟩
      · exact absurd ⟨⟨pace, paced⟩, valid, congrArg Prod.fst joined⟩ barred

theorem Started.admitted {started : Simulator} (h : Started sim pace started) : sim.Admitted := by
  obtain ⟨_, joined, -⟩ := h.session
  exact ⟨⟨pace, h.pace⟩, h.valid, congrArg Prod.fst joined⟩

theorem admitted_of_run {report : RunReport} (h : sim.run.1 = .ok report) : sim.Admitted := by
  have ran : sim.run = (.ok report, sim.run.2) := Prod.ext h rfl
  obtain ⟨_, _, _, started, -⟩ := started_of_run ran
  exact started.admitted

namespace Admitted

/-- The machine is part of the board when the run begins to take its turns or cannot boot. -/
theorem isIncorporated_start (h : sim.Admitted) :
    sim.start.2.machine.processor.isIncorporated = true := by
  obtain ⟨pace, paced⟩ := h.paced
  have joins := h.joins
  rcases joined : sim.machine.incorporate sim.kernel with ⟨_ | _, machine, kernel⟩
  · rw [joined] at joins
    cases joins
  · have part := Machine.isIncorporated_of_incorporate joined
    simp only [start, paced, h.valid, joined]
    split
    · exact part
    · exact part

theorem isIncorporated_run (h : sim.Admitted) :
    sim.run.2.machine.processor.isIncorporated = true := by
  rcases sim.run_cases with ⟨_, -, last⟩ | ⟨pace, started, hstarted, last⟩
  · rw [last]
    exact h.isIncorporated_start
  · rw [last]
    exact loop_keeps_session (P := fun session => session.processor.isIncorporated = true)
      (fun {session} request joined => session.isIncorporated_perform joined request) pace _
      hstarted.isIncorporated

end Admitted

/-- A call for a run of a machine that is part of a board. -/
theorem run_of_isIncorporated (paced : sim.config.pace = .ok pace)
    (valid : sim.workload.error? = none)
    (joined : sim.machine.processor.isIncorporated = true) :
    sim.run = (.error (.processor .alreadyIncorporated), sim) := by
  have joining : sim.machine.processor.joining = .error .alreadyIncorporated :=
    Processor.joining_of_isIncorporated joined
  have refused := Machine.incorporate_of_joining_error joining sim.kernel
  simp only [run, start, paced, valid, refused]

theorem Admitted.run_again (h : sim.Admitted) :
    sim.run.2.run = (.error (.processor .alreadyIncorporated), sim.run.2) := by
  obtain ⟨pace, paced⟩ := h.paced
  obtain ⟨workload, config⟩ := sim.run_frame
  have stillPaced : sim.run.2.config.pace = .ok pace := by rw [config, paced]
  have stillValid : sim.run.2.workload.error? = none := by rw [workload, h.valid]
  exact run_of_isIncorporated stillPaced stillValid h.isIncorporated_run

theorem run_of_not_admitted (barred : ¬ sim.Admitted) :
    ∃ error kernel, sim.run = (.error error, { sim with kernel }) ∧
      Kernel.SameWork sim.kernel kernel := by
  obtain ⟨error, kernel, start, same⟩ := start_of_not_admitted barred
  refine ⟨error, kernel, ?_, same⟩
  rw [run, start]

/-! ## All calls -/

/-- The simulator after some calls for a run. -/
def afterRuns (sim : Simulator) : (calls : Nat) → Simulator
  | 0 => sim
  | calls + 1 => (sim.afterRuns calls).run.2

theorem Admitted.run_later {first later : Nat} (h : (sim.afterRuns first).Admitted)
    (before : first < later) :
    (sim.afterRuns later).run =
      (.error (.processor .alreadyIncorporated), sim.afterRuns later) := by
  induction later, before using Nat.le_induction with
  | base => exact h.run_again
  | succ later _ ih =>
    have stands : sim.afterRuns (later + 1) = sim.afterRuns later := congrArg Prod.snd ih
    rw [stands, ih]

/-- Of all calls for a run of a simulator, whatever its machine, kernel and handlers are, at most
one gives a report. A call that does not get past the checks, or whose machine cannot join the
board, fails and leaves everything but the kernel as it was, and no model of the kernel begins to
execute. Once a call got past that, whatever came of it, every later one is told that the machine
is part of a board, and changes nothing at all. -/
theorem runs_at_most_once (sim : Simulator) :
    (∀ first second report report', (sim.afterRuns first).run.1 = .ok report →
      (sim.afterRuns second).run.1 = .ok report' → first = second) ∧
    ∀ calls, let now := sim.afterRuns calls
      (¬ now.Admitted → ∃ error kernel, now.run = (.error error, { now with kernel }) ∧
        kernel.booted = now.kernel.booted ∧
        ∀ model, kernel.arch? model = now.kernel.arch? model) ∧
      (now.Admitted → ∀ later, calls < later → (sim.afterRuns later).run =
        (.error (.processor .alreadyIncorporated), sim.afterRuns later)) := by
  refine ⟨fun first second report report' h h' => ?_,
    fun calls => ⟨fun barred => ?_, fun h later => h.run_later⟩⟩
  · have later {first later : Nat} {report report' : RunReport}
        (h : (sim.afterRuns first).run.1 = .ok report)
        (h' : (sim.afterRuns later).run.1 = .ok report') : ¬ first < later := by
      intro before
      rw [(admitted_of_run h).run_later before] at h'
      cases h'
    exact Nat.le_antisymm (Nat.le_of_not_lt (later h' h)) (Nat.le_of_not_lt (later h h'))
  · obtain ⟨error, kernel, failed, same⟩ := run_of_not_admitted barred
    exact ⟨error, kernel, failed, same.booted, same.arch⟩

theorem runs_at_most_once_duo :
    duo.Admitted ∧ (∃ report, duo.run.1 = .ok report) ∧
      (duo.afterRuns 2).run = (.error (.processor .alreadyIncorporated), duo.afterRuns 2) := by
  obtain ⟨report, final, ran⟩ := exists_run_duo
  have done : duo.run.1 = .ok report := congrArg Prod.fst ran
  have admitted := admitted_of_run done
  exact ⟨admitted, ⟨report, done⟩, ((runs_at_most_once duo).2 0).2 admitted 2 (by decide)⟩

end Polycore.Simulator
