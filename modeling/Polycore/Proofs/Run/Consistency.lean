import Polycore.Proofs.Run.Runs
import Polycore.Proofs.Run.Schedules

/-!
# Reports are consistent

While a run goes on, its records are in order, lie in the past, and tell of events after which it
went on (`Simulator.Chronicle`). The last firing adds the one record that the report agrees with
(`RunReport.Consistent`).
-/

namespace Polycore

/-- A report tells one story: what its events say, what it says of the end of the run, and what the
objects have retired fit together. -/
structure RunReport.Consistent (report : RunReport) (workload : Workload) (maxTicks : Nat)
    (earlier : List ExitRecord) (last : ExitRecord) : Prop where
  events : report.events = earlier ++ [last]
  ticks : (report.events.map (·.tick)).Pairwise (· ≤ ·)
  counts : (report.events.map (·.instructions)).Pairwise (· ≤ ·)
  resumed : ∀ record ∈ earlier, record.action = .resume
  uncut : ∀ record ∈ earlier, record.trigger ≠ .maxTick
  finalTick : last.tick = report.finalTick
  instructions : last.instructions = report.instructions
  activeCores : last.activeCores = report.cores.map (·.name)
  maxTick_iff : report.exitReason = .maxTick ↔ last.trigger = .maxTick
  workloadComplete_iff : report.exitReason = .workloadComplete ↔
    last.trigger = .exit ∧ last.action = .resume
  exit_iff : report.exitReason = .exit ↔ last.trigger ≠ .maxTick ∧ last.action = .stop
  late : report.exitReason = .maxTick →
    maxTicks ≤ report.finalTick ∧ report.instructions < workload.instructions
  done : report.exitReason = .workloadComplete → workload.instructions ≤ report.instructions
  conserved : report.instructions = (report.objects.map (·.instructions)).sum

namespace ExitRecord

variable {record : ExitRecord}

/-- Why a run ended that ended with this event. -/
def reason (record : ExitRecord) : ExitReason :=
  if record.trigger = .maxTick then .maxTick
  else if record.action = .stop then .exit
  else .workloadComplete

theorem reason_eq_maxTick_iff : record.reason = .maxTick ↔ record.trigger = .maxTick := by
  unfold reason
  split
  · next cut => exact iff_of_true rfl cut
  · next uncut =>
    refine iff_of_false ?_ uncut
    split <;> nofun

theorem reason_eq_exit_iff :
    record.reason = .exit ↔ record.trigger ≠ .maxTick ∧ record.action = .stop := by
  unfold reason
  split
  · next cut => exact iff_of_false nofun fun h => h.1 cut
  · next uncut =>
    split
    · next stop => exact iff_of_true rfl ⟨uncut, stop⟩
    · next resume => exact iff_of_false nofun fun h => resume h.2

theorem reason_eq_workloadComplete_iff :
    record.reason = .workloadComplete ↔ record.trigger ≠ .maxTick ∧ record.action = .resume := by
  unfold reason
  split
  · next cut => exact iff_of_false nofun fun h => h.1 cut
  · next uncut =>
    cases record.action with
    | stop => exact iff_of_false nofun fun h => nomatch h.2
    | resume => exact iff_of_true rfl ⟨uncut, rfl⟩

end ExitRecord

namespace Simulator

variable {sim mid next final : Simulator} {trigger : Trigger} {action : Action}
  {passed : List GuestEvent}

/-- The records of a simulator are in order and lie in its past. -/
structure Chronicle (sim : Simulator) : Prop where
  ticks : (sim.events.map (·.tick)).Pairwise (· ≤ ·)
  counts : (sim.events.map (·.instructions)).Pairwise (· ≤ ·)
  past : ∀ record ∈ sim.events,
    record.tick ≤ sim.kernel.tick ∧ record.instructions ≤ sim.kernel.totalInstructions

namespace Chronicle

theorem of_events_eq_nil (h : sim.events = []) : Chronicle sim := by
  refine ⟨?_, ?_, ?_⟩ <;> rw [h]
  · exact .nil
  · exact .nil
  · exact nofun

theorem runQuantum (h : Chronicle sim) (ticks : Nat) : Chronicle (sim.runQuantum ticks) where
  ticks := h.ticks
  counts := h.counts
  past record mem := by
    obtain ⟨tick, count⟩ := h.past record mem
    refine ⟨Nat.le_trans tick ?_, Nat.le_trans count ?_⟩
    · exact (Kernel.tick_runQuantum ticks sim.workload.fpFraction sim.kernel).symm ▸
        Nat.le_add_right _ _
    · exact Kernel.totalInstructions_le_runQuantum _ _ _

theorem fires (h : Chronicle sim) (fires : Fires sim trigger action next) : Chronicle next := by
  have past : ∀ record ∈ sim.events,
      record.tick ≤ next.kernel.tick ∧ record.instructions ≤ next.kernel.totalInstructions := by
    intro record mem
    obtain ⟨tick, count⟩ := h.past record mem
    exact ⟨Nat.le_trans tick fires.tick, fires.total ▸ count⟩
  refine ⟨?_, ?_, ?_⟩
  · rw [fires.events, List.map_append, List.pairwise_append]
    refine ⟨h.ticks, List.pairwise_singleton _ _, List.forall_mem_map.mpr fun record mem => ?_⟩
    exact List.forall_mem_singleton.mpr (past record mem).1
  · rw [fires.events, List.map_append, List.pairwise_append]
    refine ⟨h.counts, List.pairwise_singleton _ _, List.forall_mem_map.mpr fun record mem => ?_⟩
    exact List.forall_mem_singleton.mpr (past record mem).2
  · rw [fires.events]
    exact List.forall_mem_append.mpr
      ⟨past, List.forall_mem_singleton.mpr ⟨Nat.le_refl _, Nat.le_refl _⟩⟩

theorem passes (h : Chronicle sim) (passes : Passes passed sim next) : Chronicle next := by
  induction passes with
  | nil => exact h
  | cons first _ ih => exact ih (h.fires first)

end Chronicle

/-- No record tells of an event that was to end the run. -/
def Ongoing (sim : Simulator) : Prop :=
  ∀ record ∈ sim.events, record.action = .resume ∧ record.trigger ≠ .maxTick

theorem Ongoing.of_events_eq_nil (h : sim.events = []) : Ongoing sim := by
  rw [Ongoing, h]
  exact nofun

theorem Ongoing.passes (h : Ongoing sim) (passes : Passes passed sim next)
    (uncut : ∀ event ∈ passed, event.trigger ≠ .maxTick) : Ongoing next := by
  induction passes with
  | nil => exact h
  | cons first _ ih =>
    rw [List.forall_mem_cons] at uncut
    refine ih ?_ uncut.2
    rw [Ongoing, first.events]
    exact List.forall_mem_append.mpr ⟨h, List.forall_mem_singleton.mpr ⟨rfl, uncut.1⟩⟩

theorem sum_instructions_summaries (kernel : Kernel) :
    (kernel.summaries.map (·.instructions)).sum = kernel.totalRetired := by
  have objects : kernel.objects.zipIdx.map (·.1) = kernel.objects := List.zipIdx_map_fst _ _
  rw [Kernel.totalRetired, ← congrArg (List.map (·.retired)) objects, Kernel.summaries,
    List.map_map, List.map_map]
  rfl

/-! ## The end of a run -/

/-- A firing that ends a run completes a consistent report. -/
theorem consistent_of_fires {workload : Workload} {maxTicks : Nat} (chronicle : Chronicle mid)
    (ongoing : Ongoing mid) (fires : Fires mid trigger action final)
    (books : final.kernel.Books)
    (late : trigger = .maxTick →
      maxTicks ≤ final.kernel.tick ∧ final.kernel.totalInstructions < workload.instructions)
    (done : trigger ≠ .maxTick → action = .resume →
      trigger = .exit ∧ workload.instructions ≤ final.kernel.totalInstructions) :
    (final.report (final.entry trigger action).reason).Consistent workload maxTicks mid.events
      (final.entry trigger action) where
  events := fires.events
  ticks := (chronicle.fires fires).ticks
  counts := (chronicle.fires fires).counts
  resumed record mem := (ongoing record mem).1
  uncut record mem := (ongoing record mem).2
  finalTick := rfl
  instructions := rfl
  activeCores := by
    rw [report, List.map_map]
    rfl
  maxTick_iff := ExitRecord.reason_eq_maxTick_iff
  workloadComplete_iff := by
    refine ExitRecord.reason_eq_workloadComplete_iff.trans ⟨?_, ?_⟩
    · exact fun ⟨uncut, resume⟩ => ⟨(done uncut resume).1, resume⟩
    · exact fun ⟨exit, resume⟩ => ⟨exit ▸ nofun, resume⟩
  exit_iff := ExitRecord.reason_eq_exit_iff
  late h := late (ExitRecord.reason_eq_maxTick_iff.mp h)
  done h := by
    obtain ⟨uncut, resume⟩ := ExitRecord.reason_eq_workloadComplete_iff.mp h
    exact (done uncut resume).2
  conserved := books.conserved.trans (sum_instructions_summaries final.kernel).symm

/-- What holds before every turn of a run of a workload. -/
structure Underway (workload : Workload) (pending : List GuestEvent) (sim : Simulator) : Prop where
  chronicle : Chronicle sim
  ongoing : Ongoing sim
  uncut : ∀ event ∈ pending, event.trigger ≠ .maxTick
  unfinished : sim.kernel.totalInstructions < workload.instructions
  workload : sim.workload = workload

theorem Underway.goesOn {workload : Workload} {pace : Pace} {pending left : List GuestEvent}
    (h : Underway workload pending sim) (goesOn : GoesOn pace pending left sim next passed) :
    Underway workload left next := by
  obtain ⟨-, -, rfl, -, -, passes, unfinished⟩ := goesOn
  obtain ⟨first, later⟩ := List.forall_mem_append.mp h.uncut
  have ongoing : Ongoing (sim.runQuantum pace.quantum) := h.ongoing
  refine ⟨(h.chronicle.runQuantum pace.quantum).passes passes, ongoing.passes passes first, later,
    ?_, passes.workload.trans h.workload⟩
  rw [passes.total, ← h.workload]
  exact unfinished

theorem Underway.consistent {workload : Workload} {pace : Pace} {pending : List GuestEvent}
    {reason : ExitReason} (h : Underway workload pending sim)
    (ending : Ending pace pending sim reason final) (books : final.kernel.Books) :
    ∃ earlier last, (final.report reason).Consistent workload pace.maxTicks earlier last := by
  have ongoing : Ongoing (sim.runQuantum pace.quantum) := h.ongoing
  have chronicle := h.chronicle.runQuantum pace.quantum
  cases ending with
  | @cutOff action _ late fires =>
    exact ⟨_, _, consistent_of_fires h.chronicle h.ongoing fires books
      (fun _ => ⟨Nat.le_trans late fires.tick, fires.total ▸ h.unfinished⟩)
      (fun uncut => absurd rfl uncut)⟩
  | @stopped passed left event mid _ early hpending due last passes fires =>
    subst hpending
    obtain ⟨first, later⟩ := List.forall_mem_append.mp h.uncut
    have uncut : event.trigger ≠ .maxTick := later event List.mem_cons_self
    have consistent : (final.report (final.entry event.trigger .stop).reason).Consistent workload
        pace.maxTicks mid.events (final.entry event.trigger .stop) :=
      consistent_of_fires (chronicle.passes passes) (ongoing.passes passes first) fires books
        (fun cut => absurd cut uncut) (fun _ resume => nomatch resume)
    rw [ExitRecord.reason_eq_exit_iff.mpr ⟨uncut, rfl⟩] at consistent
    exact ⟨_, _, consistent⟩
  | @finished passed left action mid _ early hpending due undue passes done fires =>
    subst hpending
    obtain ⟨first, -⟩ := List.forall_mem_append.mp h.uncut
    rw [h.workload] at done
    refine ⟨_, _, consistent_of_fires (chronicle.passes passes) (ongoing.passes passes first) fires
      books nofun fun _ _ => ⟨rfl, ?_⟩⟩
    rw [fires.total, passes.total]
    exact done

/-- The report of every run tells one consistent story, whatever the handlers do: its records are in
order, all but the last tell of events after which the run went on, the last one agrees with the
report, and the reason for the end is the one that it gives. -/
theorem report_consistent {report : RunReport} (reachable : sim.Reachable)
    (built : sim.workload.Built) (h : sim.run = (.ok report, final)) :
    ∃ earlier last, report.Consistent sim.workload sim.config.maxTicks earlier last := by
  obtain ⟨pace, started, reason, hstarted, ended, rfl⟩ := started_of_run h
  have books : final.kernel.Books := by
    have kept := reachable.run.wf_and_kernel.2.books
    rwa [h] at kept
  have unrecorded : started.events = [] :=
    hstarted.events.trans (reachable.events_eq_nil hstarted.alone)
  have underway : Underway sim.workload sim.workload.schedule started :=
    { chronicle := .of_events_eq_nil unrecorded
      ongoing := .of_events_eq_nil unrecorded
      uncut := fun event mem => built.annotated.trigger_ne_maxTick mem
      unfinished := by
        rw [hstarted.total_eq_zero reachable.wf_and_kernel.2]
        exact Workload.pos_of_error?_eq_none hstarted.valid
      workload := hstarted.workload }
  obtain ⟨pending, sim', before, turn⟩ := loop_ends (fun goesOn h => h.goesOn goesOn) underway
  rw [ended] at turn
  rw [← (RunConfig.pace_eq_ok hstarted.pace).2]
  exact before.consistent (ending_of_turn turn) books

theorem report_consistent_duo :
    ∃ report final, duo.run = (.ok report, final) ∧
      ∃ earlier last, report.Consistent duo.workload duo.config.maxTicks earlier last := by
  have built : duo.workload.Built := .exitPoint 5 (.new "duo" 10)
  obtain ⟨report, final, h⟩ := exists_run_duo
  exact ⟨report, final, h, report_consistent reachable_duo built h⟩

end Simulator

end Polycore
