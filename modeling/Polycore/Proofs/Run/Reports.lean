import Polycore.Proofs.Json.Readers
import Polycore.Proofs.Run.Runs
import Polycore.Run.Experiment
import Polycore.Run.ReportFormat

/-!
# Reading reports back

A report whose numbers fit in their words is written so that it can be read back, unless it has no
events: these are left out when there are none, and then missed by the reader
(`RunReport.read_text`). So the report of every run is read back (`Simulator.report_reads_back`),
and a report that was read from some text comes through a rewriting if and only if it has events
(`RunReport.stable_iff_eventful`).
-/

namespace Polycore

open Json (Fields Reader)
open Json.Fields (builds_pure builds_required builds_optional builds_inhabited yields_pure
  yields_required yields_optional)
open Json.Reader (reads_nat reads_uint64 reads_bool reads_text reads_label reads_list reads_modelId
  reads_timeline yields_any yields_nat yields_modelId yields_timeline)

/-! ## Numbers that fit -/

/-- The numbers of an event are words. -/
structure ExitRecord.Fits (event : ExitRecord) : Prop where
  tick : event.tick < Word.bound64
  instructions : event.instructions < Word.bound64

structure CoreReport.Fits (core : CoreReport) : Prop where
  slot : core.slot < Word.bound64
  model : core.model.raw < Word.bound32
  timeline : ∀ timeline ∈ core.timeline, timeline.index < Word.bound32

structure ObjectSummary.Fits (summary : ObjectSummary) : Prop where
  model : summary.model.raw < Word.bound32
  timeline : summary.timeline.index < Word.bound32
  instructions : summary.instructions < Word.bound64

/-- The numbers of a report are words, those of models and timelines of 32 bits. -/
structure RunReport.Fits (report : RunReport) : Prop where
  finalTick : report.finalTick < Word.bound64
  instructions : report.instructions < Word.bound64
  swaps : report.swaps < Word.bound64
  events : ∀ event ∈ report.events, event.Fits
  cores : ∀ core ∈ report.cores, core.Fits
  objects : ∀ summary ∈ report.objects, summary.Fits

instance (event : ExitRecord) : Decidable event.Fits :=
  decidable_of_iff (event.tick < Word.bound64 ∧ event.instructions < Word.bound64)
    ⟨fun ⟨tick, instructions⟩ => ⟨tick, instructions⟩, fun h => ⟨h.tick, h.instructions⟩⟩

instance (core : CoreReport) : Decidable core.Fits :=
  decidable_of_iff
    (core.slot < Word.bound64 ∧ core.model.raw < Word.bound32 ∧
      ∀ timeline ∈ core.timeline, timeline.index < Word.bound32)
    ⟨fun ⟨slot, model, timeline⟩ => ⟨slot, model, timeline⟩,
      fun h => ⟨h.slot, h.model, h.timeline⟩⟩

instance (summary : ObjectSummary) : Decidable summary.Fits :=
  decidable_of_iff
    (summary.model.raw < Word.bound32 ∧ summary.timeline.index < Word.bound32 ∧
      summary.instructions < Word.bound64)
    ⟨fun ⟨model, timeline, instructions⟩ => ⟨model, timeline, instructions⟩,
      fun h => ⟨h.model, h.timeline, h.instructions⟩⟩

instance (report : RunReport) : Decidable report.Fits :=
  decidable_of_iff
    (report.finalTick < Word.bound64 ∧ report.instructions < Word.bound64 ∧
      report.swaps < Word.bound64 ∧ (∀ event ∈ report.events, event.Fits) ∧
      (∀ core ∈ report.cores, core.Fits) ∧ ∀ summary ∈ report.objects, summary.Fits)
    ⟨fun ⟨finalTick, instructions, swaps, events, cores, objects⟩ =>
        ⟨finalTick, instructions, swaps, events, cores, objects⟩,
      fun h => ⟨h.finalTick, h.instructions, h.swaps, h.events, h.cores, h.objects⟩⟩

/-! ## Reading back what was written -/

theorem Trigger.reads (trigger : Trigger) : Trigger.reader.Reads (.string trigger.label) trigger :=
  reads_label (by decide) (by cases trigger <;> decide)

theorem Action.reads (action : Action) : Action.reader.Reads (.string action.label) action :=
  reads_label (by decide) (by cases action <;> decide)

theorem ExitReason.reads (reason : ExitReason) :
    ExitReason.reader.Reads (.string reason.label) reason :=
  reads_label (by decide) (by cases reason <;> decide)

theorem MemMode.reads (mode : MemMode) : MemMode.reader.Reads (.string mode.label) mode :=
  reads_label (by decide) (by cases mode <;> decide)

theorem ExitRecord.reads {event : ExitRecord} (h : event.Fits) :
    ExitRecord.reader.Reads event.toJson event :=
  ((builds_pure ExitRecord.mk).apply (builds_required "tick" (reads_nat h.tick))
    |>.apply (builds_required "trigger" event.trigger.reads)
    |>.apply (builds_required "action" event.action.reads)
    |>.apply (builds_required "instructions" (reads_nat h.instructions))
    |>.apply (builds_required "active_cores" (reads_list fun name _ => reads_text name))).reads
      (by decide)

theorem CoreReport.reads {core : CoreReport} (h : core.Fits) :
    CoreReport.reader.Reads core.toJson core :=
  ((builds_pure CoreReport.mk).apply (builds_required "slot" (reads_nat h.slot))
    |>.apply (builds_required "name" (reads_text core.name))
    |>.apply (builds_required "model" (reads_modelId h.model))
    |>.apply (builds_required "accelerated" (reads_bool core.accelerated))
    |>.apply (builds_optional "timeline"
      (fun timeline mem => reads_timeline (h.timeline timeline mem)) fun _ _ => nofun)).reads
      (by decide)

theorem ObjectSummary.reads {summary : ObjectSummary} (h : summary.Fits) :
    ObjectSummary.reader.Reads summary.toJson summary :=
  ((builds_pure ObjectSummary.mk).apply (builds_required "model" (reads_modelId h.model))
    |>.apply (builds_required "path" (reads_text summary.path))
    |>.apply (builds_required "timeline" (reads_timeline h.timeline))
    |>.apply (builds_required "running" (reads_bool summary.running))
    |>.apply (builds_required "instructions" (reads_nat h.instructions))).reads (by decide)

namespace RunReport

variable {report : RunReport}

/-- The reader meets every field in the written form, but for the events if there are none. -/
theorem reader_toJson (h : report.Fits) : report.toJson.Regular ∧
    RunReport.reader report.toJson.node =
      if report.events.isEmpty then .error .mismatch else .ok report := by
  have system : (Fields.optional "system" .text).Builds _ (.ok report.system) :=
    builds_optional "system" (fun system _ => reads_text system) fun _ _ => nofun
  have all := (builds_pure RunReport.mk).apply system
    |>.apply (builds_required "workload" (reads_text report.workload))
    |>.apply (builds_required "seed" (reads_uint64 report.seed))
    |>.apply (builds_required "exit_reason" report.exitReason.reads)
    |>.apply (builds_required "final_tick" (reads_nat h.finalTick))
    |>.apply (builds_required "instructions" (reads_nat h.instructions))
    |>.apply (builds_required "swaps" (reads_nat h.swaps))
    |>.apply (builds_required "mem_mode" report.memMode.reads)
    |>.apply (builds_required "host_acceleration" (reads_bool report.hostAcceleration))
    |>.apply (builds_inhabited "events" fun event mem => ExitRecord.reads (h.events event mem))
    |>.apply (builds_required "cores"
      (reads_list fun core mem => CoreReport.reads (h.cores core mem)))
    |>.apply (builds_required "objects"
      (reads_list fun summary mem => ObjectSummary.reads (h.objects summary mem)))
  have outcome := all.reader_node (by decide)
  have regular := Json.Regular.object all.regular
  simp only [List.nil_append, List.append_assoc, List.cons_append] at outcome regular
  rw [toJson]
  simp only [List.append_assoc, List.cons_append, List.nil_append]
  refine ⟨regular, outcome.trans ?_⟩
  by_cases none : report.events.isEmpty
  · rw [if_pos none, if_pos none]
    rfl
  · rw [if_neg none, if_neg none]
    rfl

/-- A report is written so that it is read back, unless it has no events. -/
theorem read_text (h : report.Fits) :
    read report.text = if report.events.isEmpty then .error .mismatch else .ok report := by
  obtain ⟨regular, outcome⟩ := reader_toJson h
  rw [read, text, Json.read_pretty _ regular, outcome]

end RunReport

/-! ## What is read fits -/

theorem ExitRecord.yields_fits : ExitRecord.reader.Yields ExitRecord.Fits := by
  refine ((yields_pure ?_).apply (yields_required (yields_nat _) _)
    |>.apply (yields_required (yields_any _) _)
    |>.apply (yields_required (yields_any _) _)
    |>.apply (yields_required (yields_nat _) _)
    |>.apply (yields_required (yields_any _) _)).record
  intro tick early trigger _ action _ instructions few activeCores _
  exact ⟨early, few⟩

theorem CoreReport.yields_fits : CoreReport.reader.Yields CoreReport.Fits := by
  refine ((yields_pure ?_).apply (yields_required (yields_nat _) _)
    |>.apply (yields_required (yields_any _) _)
    |>.apply (yields_required yields_modelId _)
    |>.apply (yields_required (yields_any _) _)
    |>.apply (yields_optional yields_timeline _)).record
  intro slot small name _ model known accelerated _ timeline bound
  exact ⟨small, known, bound⟩

theorem ObjectSummary.yields_fits : ObjectSummary.reader.Yields ObjectSummary.Fits := by
  refine ((yields_pure ?_).apply (yields_required yields_modelId _)
    |>.apply (yields_required (yields_any _) _)
    |>.apply (yields_required yields_timeline _)
    |>.apply (yields_required (yields_any _) _)
    |>.apply (yields_required (yields_nat _) _)).record
  intro model known path _ timeline bound running _ instructions few
  exact ⟨known, bound, few⟩

theorem RunReport.yields_fits : RunReport.reader.Yields RunReport.Fits := by
  refine ((yields_pure ?_).apply (yields_optional (yields_any _) _)
    |>.apply (yields_required (yields_any _) _)
    |>.apply (yields_required (yields_any _) _)
    |>.apply (yields_required (yields_any _) _)
    |>.apply (yields_required (yields_nat _) _)
    |>.apply (yields_required (yields_nat _) _)
    |>.apply (yields_required (yields_nat _) _)
    |>.apply (yields_required (yields_any _) _)
    |>.apply (yields_required (yields_any _) _)
    |>.apply (yields_required ExitRecord.yields_fits.list _)
    |>.apply (yields_required CoreReport.yields_fits.list _)
    |>.apply (yields_required ObjectSummary.yields_fits.list _)).record
  intro system _ workload _ seed _ exitReason _ finalTick early instructions few swaps rare
    memMode _ hostAcceleration _ events happened cores active objects known
  exact ⟨early, few, rare, happened, active, known⟩

namespace RunReport

variable {report : RunReport}

theorem fits_of_read {text : String} (h : read text = .ok report) : report.Fits :=
  yields_fits.of_read h

/-! ## Rewriting -/

/-- Writing a report and reading it changes neither the report nor its text. -/
def Stable (report : RunReport) : Prop :=
  ∃ again, read report.text = .ok again ∧ again = report ∧ again.text = report.text

/-- A report that was read from a text, in whatever order of its fields and with whatever blanks, is
stable if and only if it has events. Without events it is written without that field, which the
reader misses, although it does not miss a preset or a timeline that was left out. -/
theorem stable_iff_eventful {text : String} (h : read text = .ok report) :
    (report.Stable ↔ report.events ≠ []) ∧
      (report.events = [] → read report.text = .error .mismatch) := by
  have written := read_text (fits_of_read h)
  by_cases none : report.events = []
  · rw [if_pos (List.isEmpty_iff.mpr none)] at written
    refine ⟨⟨?_, fun some => absurd none some⟩, fun _ => written⟩
    rintro ⟨again, accepted, -⟩
    cases written.symm.trans accepted
  · rw [if_neg (none ∘ List.isEmpty_iff.mp)] at written
    exact ⟨⟨fun _ => none, fun _ => ⟨report, written, rfl, rfl⟩⟩, fun empty => absurd empty none⟩

/-- The same report without and with an event. -/
theorem stable_iff_eventful_trace :
    let trace (events : String) : String :=
      "[null, \"trace\", 42, \"exit\", 20, 80, 1, \"Timing\", true, [" ++ events ++ "], [], []]"
    (∃ report, read (trace "") = .ok report ∧ ¬report.Stable ∧
      read report.text = .error .mismatch) ∧
      ∃ report, read (trace "[20, \"Exit\", \"stop\", 80, []]") = .ok report ∧ report.Stable := by
  intro trace
  let silent : RunReport := ⟨none, "trace", 42, .exit, 20, 80, 1, .timing, true, [], [], []⟩
  let told : RunReport := { silent with events := [⟨20, .exit, .stop, 80, []⟩] }
  have first : read (trace "") = .ok silent := by decide +kernel
  have second : read (trace "[20, \"Exit\", \"stop\", 80, []]") = .ok told := by decide +kernel
  refine ⟨⟨silent, first, ?_, (stable_iff_eventful first).2 rfl⟩, told, second, ?_⟩
  · exact fun stable => (stable_iff_eventful first).1.mp stable rfl
  · exact (stable_iff_eventful second).1.mpr (List.cons_ne_nil _ _)

end RunReport

/-! ## Runs -/

namespace Simulator

variable {sim final : Simulator}

theorem Fires.events_ne_nil {trigger : Trigger} {action : Action}
    (h : Fires sim trigger action final) : final.events ≠ [] := by
  rw [h.events]
  exact List.append_ne_nil_of_right_ne_nil _ (List.cons_ne_nil _ _)

/-- Whatever ends a run is told as an event. -/
theorem Ending.events_ne_nil {pace : Pace} {pending : List GuestEvent} {reason : ExitReason}
    (ending : Ending pace pending sim reason final) : final.events ≠ [] := by
  cases ending with
  | cutOff _ fires => exact fires.events_ne_nil
  | stopped _ _ _ _ _ fires => exact fires.events_ne_nil
  | finished _ _ _ _ _ _ fires => exact fires.events_ne_nil

theorem events_ne_nil_of_run {report : RunReport} (h : sim.run = (.ok report, final)) :
    report.events ≠ [] := by
  obtain ⟨_, _, _, -, ended, rfl⟩ := started_of_run h
  obtain ⟨_, _, ending⟩ := ending_of_loop ended
  exact ending.events_ne_nil

/-- The report of a run, of a guest and of cores by any names, is read back from its text, and so is
that of an experiment. -/
theorem report_reads_back {report : RunReport}
    (ran : (∃ sim : Simulator, sim.run.1 = .ok report) ∨
      ∃ experiment : Experiment, experiment.run.1 = .ok report)
    (fits : report.Fits) : RunReport.read report.text = .ok report := by
  have eventful : report.events ≠ [] := by
    rcases ran with ⟨sim, ran⟩ | ⟨experiment, ran⟩
    · exact events_ne_nil_of_run (Prod.ext ran rfl)
    · unfold Experiment.run at ran
      split at ran
      · cases ran
      · next told =>
        cases ran
        have eventful := events_ne_nil_of_run told
        exact eventful
  rw [RunReport.read_text fits, if_neg (eventful ∘ List.isEmpty_iff.mp)]

/-- A guest whose name has to be escaped. -/
theorem report_reads_back_quoted :
    let guest : Workload := { duo.workload with name := "\"\\\n\u0007\u007f é 😀" }
    ∃ report, (Simulator.run { duo with workload := guest }).1 = .ok report ∧
      RunReport.read report.text = .ok report := by
  intro guest
  have fits : ((Simulator.run { duo with workload := guest }).1.toOption.any fun report =>
      decide report.Fits) = true := by
    decide +kernel
  cases ran : (Simulator.run { duo with workload := guest }).1 with
  | error error =>
    rw [ran] at fits
    cases fits
  | ok report =>
    rw [ran] at fits
    exact ⟨report, rfl, report_reads_back (.inl ⟨_, ran⟩) (of_decide_eq_true fits)⟩

end Simulator

end Polycore
