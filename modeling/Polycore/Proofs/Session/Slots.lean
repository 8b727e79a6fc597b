import Mathlib.Data.List.Flatten
import Polycore.Proofs.Session.Coupling

/-!
# The work of the slots

The models that all configurations give to one slot are a `Processor.column`. What executes in a
slot has retired exactly what the objects of its column retired together: every quantum adds to both
(`Balance.retire`), and a switch moves the state within the column (`Session.slot?_perform_move`).
-/

namespace Polycore

variable {model : ModelId} {place : Nat}

namespace Processor

variable {processor next : Processor}

/-- The models that the configurations have at a place. -/
def column (processor : Processor) (place : Nat) : List ModelId :=
  processor.configurations.filterMap (·.models[place]?)

theorem column_of_outline (same : next.outline = processor.outline) (place : Nat) :
    next.column place = processor.column place := by
  have seen (processor : Processor) : processor.column place =
      (processor.configurations.map (·.models)).filterMap (·[place]?) := by
    rw [List.filterMap_map]
    rfl
  rw [seen, map_eq_of_outline (·.models) (fun c => c.models_setSwitchedOut false) same, seen]

theorem WF.nodup_column (h : processor.WF) (place : Nat) : (processor.column place).Nodup := by
  refine List.Nodup.sublist ?_ h.models
  rw [column, List.filterMap_eq_flatMap_toList]
  refine List.Sublist.flatMap_right _ fun configuration _ => ?_
  cases entry : configuration.models[place]? with
  | none => exact List.nil_sublist _
  | some model => exact List.singleton_sublist.mpr (List.mem_of_getElem? entry)

theorem WF.mem_column (h : processor.WF) (active : processor.models[place]? = some model) :
    model ∈ processor.column place := by
  obtain ⟨current, hcurrent, hcores⟩ := h.exists_current?
  rw [Processor.models, hcores] at active
  exact List.mem_filterMap.mpr ⟨current, (configuration?_eq_some hcurrent).1, active⟩

/-- An active model stands in no column but that of its own slot. -/
theorem WF.place_of_mem_column (h : processor.WF) (mem : model ∈ processor.column place)
    (active : model ∈ processor.models) : processor.models[place]? = some model := by
  obtain ⟨configuration, hconfiguration, entry⟩ := List.mem_filterMap.mp mem
  obtain ⟨current, hcurrent, hcores⟩ := h.exists_current?
  obtain ⟨currentMem, currentName⟩ := configuration?_eq_some hcurrent
  have name := (h.mem_models_iff hconfiguration (List.mem_of_getElem? entry)).mp active
  obtain rfl := List.inj_on_of_nodup_map h.names hconfiguration currentMem
    (name.trans currentName.symm)
  rw [Processor.models, hcores]
  exact entry

end Processor

/-! ## Balance -/

/-- Every active model has an architectural state that counts what its column retired. -/
def Balance (processor : Processor) (kernel : Kernel) : Prop :=
  ∀ place model, processor.models[place]? = some model →
    ∃ arch, kernel.arch? model = some arch ∧
      arch.instructions = ((processor.column place).map kernel.retired).sum

namespace Balance

variable {processor : Processor} {kernel next : Kernel}

theorem of_sameWork (same : Kernel.SameWork kernel next) (h : Balance processor kernel) :
    Balance processor next := by
  intro place model active
  obtain ⟨arch, harch, count⟩ := h place model active
  refine ⟨arch, (same.arch model).trans harch, ?_⟩
  rw [count, funext same.retired]

/-- What a model retires is added to the column in which it stands. -/
theorem sum_retired_retire {models : List ModelId} (distinct : models.Nodup)
    (mem : model ∈ models) (runs : kernel.isRunning model = true) (instructions : Nat) :
    (models.map (kernel.retire model instructions).retired).sum =
      (models.map kernel.retired).sum + instructions := by
  have others : (models.erase model).map (kernel.retire model instructions).retired =
      (models.erase model).map kernel.retired :=
    List.map_congr_left fun other h =>
      Kernel.retired_retire_of_ne instructions (distinct.mem_erase_iff.mp h).1
  rw [← List.sum_map_erase _ mem, ← List.sum_map_erase _ mem, others,
    Kernel.retired_retire_self runs]
  omega

theorem retire (h : Balance processor kernel) (wf : processor.WF)
    (active : model ∈ processor.models) (runs : kernel.isRunning model = true)
    (instructions : Nat) : Balance processor (kernel.retire model instructions) := by
  intro place other hother
  obtain ⟨arch, harch, count⟩ := h place other hother
  by_cases same : other = model
  · subst same
    refine ⟨arch.retire instructions, ?_, ?_⟩
    · rw [Kernel.arch?_retire_self, harch]
      rfl
    · rw [sum_retired_retire (wf.nodup_column place) (wf.mem_column hother) runs, ← count]
      rfl
  · refine ⟨arch, (Kernel.arch?_retire_of_ne instructions same).trans harch, ?_⟩
    rw [count]
    congr 1
    refine List.map_congr_left fun entry mem => ?_
    refine (Kernel.retired_retire_of_ne instructions ?_).symm
    rintro rfl
    have placed := wf.place_of_mem_column mem active
    rw [hother] at placed
    exact same (Option.some.inj placed)

/-- Before the kernel boots no object has retired anything, so all slots begin in balance. -/
theorem boot (reachable : kernel.Reachable)
    (h : kernel.boot processor.models = (.ok (), next)) : Balance processor next := by
  rcases kernel.boot_cases processor.models with ⟨_, refused⟩ | ⟨unbooted, registered, booted⟩
  · rw [refused] at h
    cases h
  · rw [booted] at h
    cases h
    intro place model active
    have mem := List.mem_of_getElem? active
    refine ⟨{}, Kernel.arch?_startAll_of_mem mem (registered model mem), ?_⟩
    refine (List.sum_eq_zero fun count hcount => ?_).symm
    obtain ⟨entry, -, rfl⟩ := List.mem_map.mp hcount
    exact (Kernel.retired_startAll _ _ entry).trans
      (reachable.books.retired_eq_zero unbooted entry)

end Balance

namespace Session

variable {session next : Session}

theorem exists_getElem?_iff {α : Type} {first second : List α}
    (same : first.length = second.length) :
    (∃ a, first[place]? = some a) ↔ ∃ a, second[place]? = some a := by
  simp [← Option.isSome_iff_exists, same]

theorem Coupled.balance_runQuantum (h : Coupled session)
    (balance : Balance session.processor session.kernel) (ticks : Nat) (fpFraction : Float) :
    Balance session.processor (session.kernel.runQuantum ticks fpFraction).2 := by
  -- within a quantum, too, only active models execute
  let P (kernel : Kernel) : Prop :=
    (∀ model, kernel.isRunning model = true → model ∈ session.processor.models) ∧
      Balance session.processor kernel
  have quantum : P (session.kernel.runQuantum ticks fpFraction).2 := by
    refine Kernel.runQuantum_keeps (P := P) ?_ ?_ ⟨fun model => (h.running model).mp, balance⟩
    · intro kernel next same ⟨active, balance⟩
      exact ⟨fun model runs => active model (same.isRunning model ▸ runs),
        balance.of_sameWork same⟩
    · intro kernel model instructions runs ⟨active, balance⟩
      exact ⟨fun other runs => active other (Kernel.isRunning_retire _ _ _ other ▸ runs),
        balance.retire h.wf (active model runs) runs instructions⟩
  exact quantum.2

theorem Shift.balance (shift : Shift session next)
    (h : Balance session.processor session.kernel) : Balance next.processor next.kernel := by
  cases shift with
  | still processor work =>
    have kept := h.of_sameWork work
    rcases processor with same | ⟨bindings, joined⟩
    · rw [same]
      exact kept
    · intro place model active
      rw [joined, Processor.models_incorporated] at active
      rw [joined, Processor.column_of_outline (Processor.outline_incorporated _ bindings)]
      exact kept place model active
  | switch target known other fits ok processor kernel =>
    intro place incoming active
    rw [processor, Processor.models_activate known] at active
    obtain ⟨outgoing, left⟩ := (exists_getElem?_iff fits).mp ⟨_, active⟩
    obtain ⟨arch, harch, count⟩ := h place outgoing left
    refine ⟨arch, ?_, ?_⟩
    · rw [kernel, Kernel.arch?_exchange_incoming ok (Processor.mem_handOver left active), harch]
    · rw [count, processor, Processor.column_of_outline (Processor.outline_activate _ _), kernel,
        funext (Kernel.retired_exchange _ _)]

theorem Reachable.balance (h : session.Reachable) :
    Balance session.processor session.kernel := by
  induction h with
  | boot joined h => exact .boot joined.kernel h
  | @perform session request before ih =>
    have coupled := before.coupled
    cases change_perform coupled.booted request with
    | shift shift => exact shift.balance ih
    | quantum ticks fpFraction processor kernel =>
      rw [processor, kernel]
      exact coupled.balance_runQuantum ih ticks fpFraction

/-! ## What executes in a slot -/

/-- The architectural state in the slot at a place. -/
def slot? (session : Session) (place : Nat) : Option ArchState :=
  session.processor.models[place]?.bind session.kernel.arch?

/-- What takes no time leaves every slot with the state that it has. -/
theorem Shift.slot? (shift : Shift session next) (place : Nat) :
    next.slot? place = session.slot? place := by
  cases shift with
  | still processor work =>
    have models : next.processor.models = session.processor.models := by
      rcases processor with same | ⟨bindings, joined⟩
      · rw [same]
      · rw [joined, Processor.models_incorporated]
    rw [Session.slot?, models, funext work.arch, Session.slot?]
  | switch target known other fits ok processor kernel =>
    rw [Session.slot?, processor, Processor.models_activate known, kernel, Session.slot?]
    cases left : session.processor.models[place]? with
    | none =>
      rw [List.getElem?_eq_none_iff] at left
      rw [List.getElem?_eq_none_iff.mpr (fits ▸ left)]
      rfl
    | some outgoing =>
      obtain ⟨incoming, active⟩ := (exists_getElem?_iff fits.symm).mp ⟨_, left⟩
      rw [active, Option.bind_some, Option.bind_some]
      exact Kernel.arch?_exchange_incoming ok (Processor.mem_handOver left active)

/-- No slot loses, gains or exchanges work: whatever has been asked of a session since its boot,
what executes in a slot has retired what the objects of its column retired together, its program
counter stands where that count puts it, and no move of the machine changes either. -/
theorem slots_keep_work (h : session.Reachable) :
    (∀ place model, session.processor.models[place]? = some model →
      ∃ arch, session.kernel.arch? model = some arch ∧
        arch.instructions =
          ((session.processor.column place).map session.kernel.retired).sum ∧
        arch.pc.toNat = (0xFFFFFFF0 + 4 * arch.instructions) % 2 ^ 64) ∧
    ∀ move place, (session.perform (.move move)).slot? place = session.slot? place := by
  constructor
  · intro place model active
    obtain ⟨arch, harch, count⟩ := h.balance place model active
    exact ⟨arch, harch, count, h.kernel.books.counted_of_arch? harch⟩
  · exact fun move place => (session.shift_move move).slot? place

/-- Two slots before and after a switch, with ten instructions of each of four cores. -/
theorem slots_keep_work_quad :
    let ran := quad.perform (.kernel (.runQuantum 10 0.5) rfl)
    let session := (ran.perform (.move (.switchTo "second"))).perform
      (.kernel (.runQuantum 10 0.5) rfl)
    session.processor.models = [⟨3⟩, ⟨2⟩] ∧
      session.processor.column 0 = [⟨0⟩, ⟨3⟩] ∧ session.processor.column 1 = [⟨1⟩, ⟨2⟩] ∧
      (∃ arch, session.kernel.arch? ⟨3⟩ = some arch ∧
        arch.instructions = ([⟨0⟩, ⟨3⟩].map session.kernel.retired).sum ∧
        arch.pc.toNat = (0xFFFFFFF0 + 4 * arch.instructions) % 2 ^ 64) ∧
      (∃ arch, session.kernel.arch? ⟨2⟩ = some arch ∧
        arch.instructions = ([⟨1⟩, ⟨2⟩].map session.kernel.retired).sum ∧
        arch.pc.toNat = (0xFFFFFFF0 + 4 * arch.instructions) % 2 ^ 64) ∧
      [0, 1].map (fun place => (session.slot? place).map (·.instructions)) =
        [some 20, some 20] ∧
      ∀ place, (session.perform (.move (.switchTo "first"))).slot? place = session.slot? place := by
  intro ran session
  have reachable : session.Reachable :=
    ((reachable_quad.perform _).perform _).perform (.kernel (.runQuantum 10 0.5) rfl)
  obtain ⟨work, kept⟩ := slots_keep_work reachable
  exact ⟨by decide +kernel, by decide +kernel, by decide +kernel, work 0 ⟨3⟩ (by decide +kernel),
    work 1 ⟨2⟩ (by decide +kernel), by decide +kernel, kept (.switchTo "first")⟩

end Session

end Polycore
