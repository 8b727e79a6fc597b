import Polycore.Proofs.Run.Runs

/-!
# Reports agree with their machine

The machine and the kernel of a simulator stay coupled through a run (`Simulator.coupled_of_run`),
so the objects that a report shows as running are those of the cores that it shows as active.
-/

namespace Polycore

/-- How the object of a model shows from outside. -/
def CoreObject.summary (model : ModelId) (object : CoreObject) : ObjectSummary where
  model := model
  path := Kernel.path model object
  timeline := object.timeline
  running := object.isRunning
  instructions := object.retired

namespace Kernel

variable {kernel : Kernel} {model : ModelId}

theorem mem_summaries {summary : ObjectSummary} :
    summary ∈ kernel.summaries ↔
      ∃ model object, kernel.object? model = some object ∧ object.summary model = summary := by
  rw [summaries, List.mem_map]
  constructor
  · rintro ⟨⟨object, place⟩, mem, rfl⟩
    exact ⟨⟨place⟩, object, List.mem_zipIdx_iff_getElem?.mp mem, rfl⟩
  · rintro ⟨model, object, found, rfl⟩
    exact ⟨(object, model.raw), List.mem_zipIdx_iff_getElem?.mpr found, rfl⟩

theorem nodup_models_summaries (kernel : Kernel) : (kernel.summaries.map (·.model)).Nodup := by
  have places : (kernel.objects.zipIdx.map (·.2)).Nodup := by
    rw [List.zipIdx_map_snd]
    exact List.nodup_range'
  have models := places.map (f := ModelId.mk) fun _ _ h => congrArg ModelId.raw h
  rw [List.map_map] at models
  rw [summaries, List.map_map]
  exact models

/-- The objects that are shown as running are those that execute. -/
theorem mem_running_summaries :
    model ∈ (kernel.summaries.filter (·.running)).map (·.model) ↔
      kernel.isRunning model = true := by
  simp only [List.mem_map, List.mem_filter]
  constructor
  · rintro ⟨_, ⟨mem, runs⟩, rfl⟩
    obtain ⟨model, object, found, rfl⟩ := mem_summaries.mp mem
    rw [isRunning, arch?]
    exact found ▸ runs
  · intro runs
    obtain ⟨object, found⟩ := Option.isSome_iff_exists.mp (isSome_object?_of_isRunning runs)
    rw [isRunning, arch?, found] at runs
    exact ⟨object.summary model, ⟨mem_summaries.mpr ⟨model, object, found, rfl⟩, runs⟩, rfl⟩

end Kernel

namespace Simulator

variable {sim final : Simulator} {report : RunReport}

theorem coupled_of_run (reachable : sim.Reachable) (h : sim.run = (.ok report, final)) :
    final.session.Coupled := by
  obtain ⟨pace, started, reason, hstarted, ended, -⟩ := started_of_run h
  obtain ⟨wf, kernel⟩ := reachable.wf_and_kernel
  have kept : (loop pace sim.workload.schedule started).2.session.Coupled :=
    loop_keeps_session (P := Session.Coupled) (fun request coupled => coupled.perform request) pace
      _
      (hstarted.coupled wf kernel)
  rwa [ended] at kept

theorem running_perm_cores (coupled : sim.session.Coupled) (reason : ExitReason) :
    (((sim.report reason).objects.filter (·.running)).map (·.model)).Perm
      ((sim.report reason).cores.map (·.model)) := by
  have cores : (sim.report reason).cores.map (·.model) = sim.machine.processor.models := by
    rw [report, List.map_map]
    rfl
  rw [cores]
  refine (List.perm_ext_iff_of_nodup ?_ coupled.wf.nodup_models).mpr fun model => ?_
  · exact (sim.kernel.nodup_models_summaries).sublist (List.filter_sublist.map _)
  · exact Kernel.mem_running_summaries.trans (coupled.running model)

end Simulator

/-- The machine and its kernel never disagree about who executes: in a session, after any requests
since the boot, the active models execute and no others do, and a core is switched out exactly if
its model does not execute; and a report shows exactly the models of its cores as running. -/
theorem machine_and_kernel_agree :
    (∀ session : Session, session.Reachable →
      (∀ model, session.kernel.isRunning model = true ↔
        model ∈ session.machine.processor.models) ∧
      ∀ core ∈ session.machine.processor.allCores,
        core.switchedOut = true ↔ session.kernel.isRunning core.model = false) ∧
    ∀ (sim final : Simulator) (report : RunReport), sim.Reachable →
      sim.run = (.ok report, final) →
      ((report.objects.filter (·.running)).map (·.model)).Perm
        (report.cores.map (·.model)) := by
  constructor
  · intro session reachable
    have coupled := reachable.coupled
    exact ⟨coupled.running, fun core mem => coupled.switchedOut_iff mem⟩
  · intro sim final report reachable h
    obtain ⟨_, _, reason, _, _, rfl⟩ := Simulator.started_of_run h
    exact Simulator.running_perm_cores (Simulator.coupled_of_run reachable h) reason

theorem machine_and_kernel_agree_duo :
    (∃ session : Session, session.Reachable ∧ session.machine.processor.active = "second" ∧
      (∀ model, session.kernel.isRunning model = true ↔
        model ∈ session.machine.processor.models) ∧
      ∀ core ∈ session.machine.processor.allCores,
        core.switchedOut = true ↔ session.kernel.isRunning core.model = false) ∧
    ∃ report final, Simulator.duo.run = (.ok report, final) ∧
      ((report.objects.filter (·.running)).map (·.model)).Perm
        (report.cores.map (·.model)) := by
  have reachable := Session.reachable_duo.perform (.move (.switchTo "second"))
  obtain ⟨report, final, h⟩ := Simulator.exists_run_duo
  exact ⟨⟨_, reachable, rfl, machine_and_kernel_agree.1 _ reachable⟩, report, final, h,
    machine_and_kernel_agree.2 .duo final report Simulator.reachable_duo h⟩

end Polycore
