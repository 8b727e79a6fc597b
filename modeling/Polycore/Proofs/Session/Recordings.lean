import Polycore.Proofs.Processor.Switching
import Polycore.Proofs.Session.Rehearsal

/-!
# Recorded swaps

The swaps that a recorder keeps of one machine are a walk through its configurations. Each of them
hands the cores of one configuration over to those of another, slot by slot (`Crosses`), and begins
where the one before it ended. A request adds one step to the walk or none (`Rehearsal.Step`), so
the walk is whole after any requests (`Rehearsal.Recorded`). The main statement is
`Rehearsal.recorded_swaps_form_walk`.
-/

namespace Polycore

variable {configurations : List Configuration} {machine : Machine}

namespace Machine.Intact

/-- All supplied configurations fill the same slots. -/
theorem aligned (h : Intact configurations machine) :
    ∃ slots, ∀ configuration ∈ configurations, configuration.slots = slots := by
  obtain ⟨slots, aligned⟩ := h.wf.layout
  refine ⟨slots, fun configuration mem => ?_⟩
  have seen : configuration.slots ∈ machine.processor.configurations.map (·.slots) := by
    rw [h.map_supplied (·.slots) fun c => c.slots_setSwitchedOut false]
    exact List.mem_map_of_mem mem
  obtain ⟨found, mem, same⟩ := List.mem_map.mp seen
  rw [← same, aligned found mem]

theorem exists_supplied (h : Intact configurations machine) {name : String} {found : Configuration}
    (known : machine.processor.configuration? name = some found) :
    ∃ configuration ∈ configurations, configuration.name = name ∧
      configuration.models = found.models := by
  obtain ⟨mem, rfl⟩ := Processor.configuration?_eq_some known
  let view (c : Configuration) := (c.name, c.models)
  have seen : view found ∈ configurations.map view := by
    rw [← h.map_supplied view fun c => by simp [view]]
    exact List.mem_map_of_mem mem
  obtain ⟨configuration, supplied, same⟩ := List.mem_map.mp seen
  exact ⟨configuration, supplied, congrArg Prod.fst same, congrArg Prod.snd same⟩

/-- The active models are those of a supplied configuration. -/
theorem exists_active (h : Intact configurations machine) :
    ∃ active ∈ configurations, active.name = machine.processor.active ∧
      machine.processor.models = active.models := by
  obtain ⟨current, known, cores⟩ := h.wf.exists_current?
  obtain ⟨active, mem, name, models⟩ := h.exists_supplied known
  exact ⟨active, mem, name, by rw [models, Processor.models, cores, Configuration.models]⟩

theorem length_models_supplied (h : Intact configurations machine) {configuration : Configuration}
    (mem : configuration ∈ configurations) :
    configuration.models.length = machine.processor.models.length := by
  obtain ⟨slots, aligned⟩ := h.aligned
  obtain ⟨active, hactive, -, models⟩ := h.exists_active
  have same : configuration.slots = active.slots := (aligned configuration mem).trans
    (aligned active hactive).symm
  have length := congrArg List.length same
  simpa [models, Configuration.slots, Configuration.models] using length

end Machine.Intact

/-! ## One swap -/

/-- A swap that hands the cores of one configuration over to those of another, slot by slot. -/
structure Crosses (current next : Configuration) (swap : List (ModelId × ModelId)) : Prop where
  other : current.name ≠ next.name
  slotWise : ∃ cores, SlotWise current next cores ∧
    swap = cores.map fun (outgoing, incoming) => (outgoing.model, incoming.model)

namespace Crosses

variable {current next : Configuration} {swap : List (ModelId × ModelId)}

theorem of_slots (other : current.name ≠ next.name) (same : next.slots = current.slots) :
    Crosses current next (current.models.zip next.models) where
  other := other
  slotWise := by
    refine ⟨_, slotWise_zip same, ?_⟩
    rw [Configuration.models, Configuration.models, List.zip_map]
    rfl

theorem outgoing (h : Crosses current next swap) : swap.map (·.1) = current.models := by
  obtain ⟨cores, slotWise, rfl⟩ := h.slotWise
  rw [Configuration.models, ← slotWise.outgoing, List.map_map, List.map_map]
  rfl

theorem incoming (h : Crosses current next swap) : swap.map (·.2) = next.models := by
  obtain ⟨cores, slotWise, rfl⟩ := h.slotWise
  rw [Configuration.models, ← slotWise.incoming, List.map_map, List.map_map]
  rfl

end Crosses

/-- A switch of a machine asks for a swap from the active configuration to another one. -/
theorem Machine.Intact.exists_crosses (h : Intact configurations machine) {name : String}
    {next : Configuration} (known : machine.processor.configuration? name = some next)
    (other : name ≠ machine.processor.active) :
    ∃ current ∈ configurations, ∃ target ∈ configurations,
      Crosses current target (machine.processor.handOver next) ∧
        machine.processor.models = current.models ∧ next.models = target.models := by
  obtain ⟨slots, aligned⟩ := h.aligned
  obtain ⟨current, hcurrent, currentName, models⟩ := h.exists_active
  obtain ⟨target, htarget, targetName, targetModels⟩ := h.exists_supplied known
  have same : target.slots = current.slots := (aligned target htarget).trans
    (aligned current hcurrent).symm
  have distinct : current.name ≠ target.name := by
    rw [currentName, targetName]
    exact other.symm
  refine ⟨current, hcurrent, target, htarget, ?_, models, targetModels.symm⟩
  rw [Processor.handOver, models, ← targetModels]
  exact .of_slots distinct same

/-- A recorder grants a swap and keeps it, or refuses it and keeps what it had. -/
theorem Recorder.swap_cases (pairs : List (ModelId × ModelId)) (board : Recorder) :
    (∃ reason next, Board.swap pairs board = (.error (.swapFailed reason), next) ∧
      next.swaps = board.swaps) ∨
    ∃ next : Recorder, Board.swap pairs board = (.ok (), next) ∧
      next.swaps = board.swaps ++ [pairs] := by
  change (∃ reason next, board.swap pairs = (.error (.swapFailed reason), next) ∧ _) ∨
    ∃ next, board.swap pairs = (.ok (), next) ∧ _
  unfold Recorder.swap
  split
  · exact .inl ⟨_, _, rfl, rfl⟩
  · exact .inr ⟨_, rfl, rfl⟩

namespace Rehearsal

variable {rehearsal next : Rehearsal} {board : Recorder} {starting : List ModelId}
  {count : Nat} {granted : Bool}

/-! ## One request -/

/-- A request is a switch that is granted. -/
def switches (rehearsal : Rehearsal) : Session.Request → Bool
  | .move (.switchTo name) => (rehearsal.machine.switchTo name rehearsal.board).1.isOk
  | .move .toggle => (rehearsal.machine.toggle rehearsal.board).1.isOk
  | _ => false

/-- What a request comes to for the recorded swaps: they stay, or one more leads on from the active
configuration. -/
inductive Step (configurations : List Configuration) (rehearsal next : Rehearsal) :
    Bool → Prop where
  | stays (swaps : next.board.swaps = rehearsal.board.swaps)
    (models : next.machine.processor.models = rehearsal.machine.processor.models) :
    Step configurations rehearsal next false
  | leads {current target : Configuration} {swap : List (ModelId × ModelId)}
    (hcurrent : current ∈ configurations) (htarget : target ∈ configurations)
    (crosses : Crosses current target swap)
    (swaps : next.board.swaps = rehearsal.board.swaps ++ [swap])
    (before : rehearsal.machine.processor.models = current.models)
    (after : next.machine.processor.models = target.models) :
    Step configurations rehearsal next true

theorem step_switchTo (intact : Machine.Intact configurations rehearsal.machine) (name : String) :
    Step configurations rehearsal (rehearsal.perform (.move (.switchTo name)))
      (rehearsal.switches (.move (.switchTo name))) := by
  simp only [perform, switches, Move.rehearse]
  cases found : rehearsal.machine.processor.switchError? (rehearsal.machine.target name) with
  | some error =>
    rw [Machine.switchTo_of_switchError? found]
    exact .stays rfl rfl
  | none =>
    obtain ⟨-, next, known, other, -⟩ := Processor.exists_of_switchError?_eq_none found
    rcases Recorder.swap_cases (rehearsal.machine.processor.handOver next) rehearsal.board with
      ⟨reason, board, refused, kept⟩ | ⟨board, swapped, recorded⟩
    · rw [Machine.switchTo_of_swap found known refused]
      exact .stays kept rfl
    · obtain ⟨current, hcurrent, target, htarget, crosses, before, models⟩ :=
        intact.exists_crosses known other
      rw [Machine.switchTo_of_swap found known swapped]
      refine .leads hcurrent htarget crosses recorded before ?_
      change (rehearsal.machine.switched name).processor.models = target.models
      rw [Machine.processor_switched, Processor.models_activate known, models]

theorem step_perform (intact : Machine.Intact configurations rehearsal.machine)
    (request : Session.Request) :
    Step configurations rehearsal (rehearsal.perform request) (rehearsal.switches request) := by
  cases request with
  | move move =>
    cases move with
    | switchTo name => exact step_switchTo intact name
    | toggle => exact step_switchTo intact ""
    | armSwap reason => exact .stays rfl rfl
  | incorporate =>
    refine .stays (Recorder.swaps_incorporate _ _).2 ?_
    rcases rehearsal.machine.incorporate_cases rehearsal.board with
      ⟨_, _, _, refused, same⟩ | ⟨bindings, _, _, -, granted, same⟩
    · simp only [perform, refused, same]
    · simp only [perform, granted, same, Processor.models_incorporated]
  | kernel request indirect =>
    cases request with
    | failNextSwap reason => exact .stays rfl rfl
    | _ => exact .stays rfl rfl

theorem intact_perform (intact : Machine.Intact configurations rehearsal.machine)
    (request : Session.Request) :
    Machine.Intact configurations (rehearsal.perform request).machine := by
  cases request with
  | move move =>
    cases move with
    | switchTo name => exact intact.switchTo name rehearsal.board
    | toggle => exact intact.switchTo "" rehearsal.board
    | armSwap reason => exact intact
  | incorporate => exact intact.incorporate rehearsal.board
  | kernel request indirect =>
    cases request with
    | failNextSwap reason => exact intact
    | _ => exact intact

/-! ## All requests -/

/-- The number of switches that are granted among some requests. -/
def countSwitches (rehearsal : Rehearsal) : List Session.Request → Nat
  | [] => 0
  | request :: rest =>
    (rehearsal.switches request).toNat + (rehearsal.perform request).countSwitches rest

/-- The recorded swaps, one for each switch so far, lead from the starting models to the active
ones. -/
structure Recorded (configurations : List Configuration) (starting : List ModelId) (count : Nat)
    (rehearsal : Rehearsal) : Prop where
  intact : Machine.Intact configurations rehearsal.machine
  length : rehearsal.board.swaps.length = count
  crosses : ∀ swap ∈ rehearsal.board.swaps,
    ∃ current ∈ configurations, ∃ next ∈ configurations, Crosses current next swap
  walk : rehearsal.board.swaps.map (·.map (·.1)) ++ [rehearsal.machine.processor.models] =
    starting :: rehearsal.board.swaps.map (·.map (·.2))

theorem Recorded.step (h : Recorded configurations starting count rehearsal)
    (intact : Machine.Intact configurations next.machine)
    (step : Step configurations rehearsal next granted) :
    Recorded configurations starting (count + granted.toNat) next := by
  cases step with
  | stays swaps models =>
    refine ⟨intact, ?_, ?_, ?_⟩
    · rw [swaps, h.length]
      rfl
    · rw [swaps]
      exact h.crosses
    · rw [swaps, models]
      exact h.walk
  | leads hcurrent htarget crosses swaps before after =>
    refine ⟨intact, ?_, ?_, ?_⟩
    · rw [swaps, List.length_append, h.length]
      rfl
    · rw [swaps]
      refine List.forall_mem_append.mpr ⟨h.crosses, List.forall_mem_singleton.mpr ?_⟩
      exact ⟨_, hcurrent, _, htarget, crosses⟩
    · rw [swaps, List.map_append, List.map_append, List.map_singleton, List.map_singleton,
        crosses.outgoing, crosses.incoming, ← before, h.walk, after]
      rfl

theorem Recorded.foldl_perform (h : Recorded configurations starting count rehearsal)
    (requests : List Session.Request) :
    Recorded configurations starting (count + rehearsal.countSwitches requests)
      (requests.foldl perform rehearsal) := by
  induction requests generalizing rehearsal count with
  | nil => exact h
  | cons request rest ih =>
    have first := h.step (intact_perform h.intact request) (step_perform h.intact request)
    rw [countSwitches, ← Nat.add_assoc]
    exact ih first

/-- The swaps that a recorder keeps of a machine, whatever the machine was called for and whatever
refusals were armed, are as many as switches were granted. Each is of the cores of two
configurations, slot by slot, lowest slot first. The outgoing models of the first are those of the
starting configuration, those of every later one are the incoming models of the one before it, and
the incoming models of the last are those of the active configuration. -/
theorem recorded_swaps_form_walk (made : machine.MadeOf configurations)
    (unrecorded : board.swaps = []) (requests : List Session.Request) :
    let rehearsal : Rehearsal := { machine, board }
    let last := requests.foldl perform rehearsal
    let swaps := last.board.swaps
    swaps.length = rehearsal.countSwitches requests ∧
    (∀ swap ∈ swaps, swap.length = last.machine.processor.cores.length ∧
      ∃ current ∈ configurations, ∃ next ∈ configurations, Crosses current next swap) ∧
    ∃ starting ∈ configurations, ∃ active ∈ configurations,
      starting.name = machine.processor.active ∧ active.name = last.machine.processor.active ∧
      swaps.map (·.map (·.1)) ++ [active.models] = starting.models :: swaps.map (·.map (·.2)) := by
  intro rehearsal last swaps
  have intact := made.intact.1
  have fresh : Recorded configurations machine.processor.models 0 rehearsal := by
    refine ⟨intact, ?_, ?_, ?_⟩
    · simp [rehearsal, unrecorded]
    · simp [rehearsal, unrecorded]
    · simp [rehearsal, unrecorded]
  have recorded : Recorded configurations machine.processor.models _ last :=
    fresh.foldl_perform requests
  obtain ⟨starting, hstarting, startingName, startingModels⟩ := intact.exists_active
  obtain ⟨active, hactive, activeName, activeModels⟩ := recorded.intact.exists_active
  refine ⟨recorded.length.trans (Nat.zero_add _), fun swap mem => ?_, starting, hstarting, active,
    hactive, startingName, activeName, ?_⟩
  · obtain ⟨current, hcurrent, next, hnext, crosses⟩ := recorded.crosses swap mem
    refine ⟨?_, current, hcurrent, next, hnext, crosses⟩
    have length := congrArg List.length crosses.outgoing
    rw [List.length_map, recorded.intact.length_models_supplied hcurrent] at length
    exact length.trans (List.length_map _)
  · rw [← startingModels, ← activeModels]
    exact recorded.walk

theorem recorded_swaps_form_walk_quad :
    let requests : List Session.Request :=
      [.move (.switchTo "second"), .incorporate, .move (.switchTo "second"),
        .move (.armSwap "stuck"), .move (.switchTo "first"), .move (.switchTo "first"),
        .move (.switchTo "first")]
    let last := requests.foldl perform { machine := .quad, board := {} }
    Machine.quad.MadeOf
        [Machine.twinCores "first" ⟨0⟩ ⟨1⟩, Machine.twinCores "second" ⟨3⟩ ⟨2⟩] ∧
      ({} : Recorder).swaps = [] ∧
      last.board.swaps = [[(⟨0⟩, ⟨3⟩), (⟨1⟩, ⟨2⟩)], [(⟨3⟩, ⟨0⟩), (⟨2⟩, ⟨1⟩)]] ∧
      last.machine.processor.active = "first" ∧
      last.board.swaps.length = countSwitches { machine := .quad, board := {} } requests := by
  intro requests last
  have made : Machine.quad.MadeOf
      [Machine.twinCores "first" ⟨0⟩ ⟨1⟩, Machine.twinCores "second" ⟨3⟩ ⟨2⟩] :=
    .switchable Machine.create_quad
  have unrecorded : ({} : Recorder).swaps = [] := rfl
  obtain ⟨length, -⟩ := recorded_swaps_form_walk made unrecorded requests
  exact ⟨made, unrecorded, rfl, rfl, length⟩

end Rehearsal

end Polycore
