import Polycore.Json.Labels
import Polycore.Run.Report

/-!
# Reports in JSON

The written form of a run report. Fields stand in the order of the structures; a preset or a
timeline that is absent, and an empty list of events, are left out. A report is read back from any
order of fields, but its events must be there.
-/

namespace Polycore

open Json (Fields Reader)

def Action.reader : Reader Action :=
  .label [resume, stop] Action.label

def ExitReason.reader : Reader ExitReason :=
  .label [exit, maxTick, workloadComplete] ExitReason.label

namespace ArchState

def toJson (state : ArchState) : Json :=
  .object [("pc", .ofNat state.pc.toNat), ("instructions", .ofNat state.instructions)]

def reader : Reader ArchState :=
  ((Fields.pure ArchState.mk).apply (.required "pc" .uint64)
    |>.apply (.required "instructions" .word)).reader

end ArchState

namespace ObjectSummary

def toJson (summary : ObjectSummary) : Json :=
  .object
    [("model", summary.model.toJson), ("path", .string summary.path),
      ("timeline", summary.timeline.toJson), ("running", .bool summary.running),
      ("instructions", .ofNat summary.instructions)]

def reader : Reader ObjectSummary :=
  ((Fields.pure ObjectSummary.mk).apply (.required "model" ModelId.reader)
    |>.apply (.required "path" .text)
    |>.apply (.required "timeline" Timeline.reader)
    |>.apply (.required "running" .bool)
    |>.apply (.required "instructions" .word)).reader

end ObjectSummary

namespace ExitRecord

def toJson (event : ExitRecord) : Json :=
  .object
    [("tick", .ofNat event.tick), ("trigger", .string event.trigger.label),
      ("action", .string event.action.label), ("instructions", .ofNat event.instructions),
      ("active_cores", .array (event.activeCores.map .string))]

def reader : Reader ExitRecord :=
  ((Fields.pure ExitRecord.mk).apply (.required "tick" .word)
    |>.apply (.required "trigger" Trigger.reader)
    |>.apply (.required "action" Action.reader)
    |>.apply (.required "instructions" .word)
    |>.apply (.required "active_cores" (.list .text))).reader

end ExitRecord

namespace CoreReport

/-- The written form of a core; the timeline is left out when there is none. -/
def toJson (core : CoreReport) : Json :=
  .object <|
    [("slot", .ofNat core.slot), ("name", .string core.name), ("model", core.model.toJson),
      ("accelerated", .bool core.accelerated)] ++
    (core.timeline.map fun timeline => ("timeline", timeline.toJson)).toList

def reader : Reader CoreReport :=
  ((Fields.pure CoreReport.mk).apply (.required "slot" .word)
    |>.apply (.required "name" .text)
    |>.apply (.required "model" ModelId.reader)
    |>.apply (.required "accelerated" .bool)
    |>.apply (.optional "timeline" Timeline.reader)).reader

end CoreReport

namespace RunReport

/-- The written form of a report. The preset is left out when there is none, and so are the events
when they are empty. -/
def toJson (report : RunReport) : Json :=
  .object <|
    (report.system.map fun system => ("system", .string system)).toList ++
    [("workload", .string report.workload), ("seed", .ofNat report.seed.toNat),
      ("exit_reason", .string report.exitReason.label), ("final_tick", .ofNat report.finalTick),
      ("instructions", .ofNat report.instructions), ("swaps", .ofNat report.swaps),
      ("mem_mode", .string report.memMode.label),
      ("host_acceleration", .bool report.hostAcceleration)] ++
    (if report.events.isEmpty then [] else [("events", .array (report.events.map (·.toJson)))]) ++
    [("cores", .array (report.cores.map (·.toJson))),
      ("objects", .array (report.objects.map (·.toJson)))]

def reader : Reader RunReport :=
  ((Fields.pure RunReport.mk).apply (.optional "system" .text)
    |>.apply (.required "workload" .text)
    |>.apply (.required "seed" .uint64)
    |>.apply (.required "exit_reason" ExitReason.reader)
    |>.apply (.required "final_tick" .word)
    |>.apply (.required "instructions" .word)
    |>.apply (.required "swaps" .word)
    |>.apply (.required "mem_mode" MemMode.reader)
    |>.apply (.required "host_acceleration" .bool)
    |>.apply (.required "events" (.list ExitRecord.reader))
    |>.apply (.required "cores" (.list CoreReport.reader))
    |>.apply (.required "objects" (.list ObjectSummary.reader))).reader

/-- The written form of a report, on several lines. -/
def text (report : RunReport) : String :=
  report.toJson.pretty

def read (text : String) : Except Json.Fault RunReport :=
  Json.read reader text

end RunReport

end Polycore
