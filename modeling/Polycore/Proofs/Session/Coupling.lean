import Polycore.Proofs.Kernel.Exchange
import Polycore.Proofs.Session.Basic

/-!
# Who executes in a session

From the boot of its active models on, a machine and its kernel agree about who executes:
`Session.Coupled` holds after the boot (`Coupled.boot`) and survives every change
(`Coupled.change`), so it holds of every reachable session (`Reachable.coupled`).
-/

namespace Polycore.Session

variable {session next : Session} {model : ModelId}

/-- The machine and its kernel agree: exactly the active models execute. -/
structure Coupled (session : Session) : Prop where
  wf : session.processor.WF
  booted : session.kernel.booted = true
  running : ∀ model,
    session.kernel.isRunning model = true ↔ model ∈ session.processor.models

/-! ## The coupling -/

namespace Coupled

/-- When all slots are handed over, exactly the models of the target execute. -/
theorem isRunning_exchange (h : Coupled session) {target : Configuration}
    (fits : target.models.length = session.processor.models.length)
    (ok : session.kernel.Exchangeable (session.processor.handOver target)) (model : ModelId) :
    (session.kernel.exchange (session.processor.handOver target)).isRunning model = true ↔
      model ∈ target.models := by
  by_cases incoming : model ∈ target.models
  · obtain ⟨outgoing, mem⟩ := Kernel.exists_mem_zip_right fits incoming
    rw [Kernel.isRunning, Kernel.arch?_exchange_incoming ok mem]
    exact iff_of_true (ok.running _ mem) incoming
  · refine iff_of_false ?_ incoming
    rw [Bool.not_eq_true, Kernel.isRunning_eq_false_iff]
    by_cases outgoing : model ∈ session.processor.models
    · obtain ⟨other, mem⟩ := Kernel.exists_mem_zip_left fits outgoing
      exact Kernel.arch?_exchange_outgoing ok mem
    · have apart : model ∉ Kernel.mentioned (session.processor.handOver target) :=
        Kernel.not_mem_mentioned_zip outgoing incoming
      rw [Kernel.arch?_exchange_other apart, ← Kernel.isRunning_eq_false_iff, ← Bool.not_eq_true,
        h.running]
      exact outgoing

theorem shift (h : Coupled session) (shift : Shift session next) : Coupled next := by
  cases id shift with
  | still processor work =>
    refine ⟨shift.wf h.wf, work.booted.trans h.booted, fun model => ?_⟩
    rw [work.isRunning, h.running]
    rcases processor with same | ⟨bindings, joined⟩
    · rw [same]
    · rw [joined, Processor.models_incorporated]
  | switch target known other fits ok processor kernel =>
    refine ⟨shift.wf h.wf, ?_, fun model => ?_⟩
    · rw [kernel, Kernel.booted_exchange, h.booted]
    · rw [kernel, processor, Processor.models_activate known]
      exact h.isRunning_exchange fits ok model

/-- Nothing that can become of a session breaks the coupling. -/
theorem change (h : Coupled session) (change : Change session next) : Coupled next := by
  cases change with
  | shift shift => exact h.shift shift
  | quantum ticks fpFraction processor kernel =>
    refine ⟨processor ▸ h.wf, ?_, fun model => ?_⟩
    · rw [kernel, Kernel.booted_runQuantum, h.booted]
    · rw [kernel, Kernel.isRunning_runQuantum, h.running, processor]

theorem perform (h : Coupled session) (request : Request) : Coupled (session.perform request) :=
  h.change (session.change_perform h.booted request)

/-- A boot that succeeds starts exactly the models that it is given, for until then none runs. -/
theorem boot {kernel : Kernel} (wf : session.processor.WF) (reachable : session.kernel.Reachable)
    (h : session.kernel.boot session.processor.models = (.ok (), kernel)) :
    Coupled { session with kernel } := by
  rcases session.kernel.boot_cases session.processor.models with
    ⟨_, refused⟩ | ⟨unbooted, registered, booted⟩
  · rw [refused] at h
    cases h
  · rw [booted] at h
    cases h
    refine ⟨wf, rfl, fun model => ?_⟩
    change (Kernel.startAll _ session.kernel).isRunning model = true ↔ _
    rw [Kernel.isRunning]
    by_cases active : model ∈ session.processor.models
    · rw [Kernel.arch?_startAll_of_mem active (registered model active)]
      exact iff_of_true rfl active
    · rw [Kernel.arch?_startAll_of_not_mem active, reachable.books.not_running unbooted]
      exact iff_of_false Bool.false_ne_true active

/-- A core is switched out exactly if its model does not execute. -/
theorem switchedOut_iff (h : Coupled session) {core : CoreHandle}
    (mem : core ∈ session.processor.allCores) :
    core.switchedOut = true ↔ session.kernel.isRunning core.model = false := by
  obtain ⟨configuration, hconfiguration, hcore⟩ := List.mem_flatMap.mp mem
  rw [h.wf.flags configuration hconfiguration core hcore, bne_iff_ne, ← Bool.not_eq_true, h.running,
    h.wf.mem_models_iff hconfiguration (List.mem_map_of_mem hcore)]

end Coupled

theorem Reachable.coupled (h : session.Reachable) : Coupled session := by
  induction h with
  | boot joined h => exact .boot joined.wf joined.kernel h
  | perform request _ ih => exact ih.perform request

end Polycore.Session
