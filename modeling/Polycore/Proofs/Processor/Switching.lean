import Polycore.Proofs.Processor.Representation

/-!
# Whole switches

A switch is refused on sight, without a request to the board, or asks the board for one swap and
goes by its answer. To say so of any board, the board is watched: `Watched` passes every request on
and keeps it. The swap hands over one core for each slot, lowest slot first (`SlotWise`), for all
configurations of a well-formed processor fill the same slots. The main statement is
`Machine.switches_whole`.
-/

namespace Polycore

/-- What a board may be asked for. -/
inductive Board.Request where
  | swap (pairs : List (ModelId × ModelId))
  | assignTimeline (model : ModelId) (timeline : Timeline)
  | enableHostAcceleration
  | setMemMode (memMode : MemMode)
deriving DecidableEq

/-- A board and all that it was asked for, granted or not, oldest first. -/
structure Watched (σ : Type) where
  board : σ
  asked : List Board.Request

namespace Watched

variable {σ : Type} [Board σ]

/-- Passes a request on and keeps it. -/
def ask (watched : Watched σ) (request : Board.Request) (pass : σ → Answer σ) :
    Answer (Watched σ) :=
  let (answer, board) := pass watched.board
  (answer, { board, asked := watched.asked ++ [request] })

instance : Board (Watched σ) where
  swap pairs watched := watched.ask (.swap pairs) (Board.swap pairs)
  assignTimeline model timeline watched :=
    watched.ask (.assignTimeline model timeline) (Board.assignTimeline model timeline)
  enableHostAcceleration watched :=
    watched.ask .enableHostAcceleration Board.enableHostAcceleration
  usesRuby watched := Board.usesRuby watched.board
  setMemMode memMode watched :=
    { board := Board.setMemMode memMode watched.board
      asked := watched.asked ++ [.setMemMode memMode] }

theorem swap_eq (pairs : List (ModelId × ModelId)) (watched : Watched σ) :
    Board.swap pairs watched =
      ((Board.swap pairs watched.board).1,
        { board := (Board.swap pairs watched.board).2, asked := watched.asked ++ [.swap pairs] }) :=
  rfl

end Watched

/-! ## Slot by slot -/

/-- Cores of two configurations in pairs, one for each slot, lowest slot first. -/
structure SlotWise (current next : Configuration) (cores : List (CoreHandle × CoreHandle)) :
    Prop where
  outgoing : cores.map (·.1) = current.cores
  incoming : cores.map (·.2) = next.cores
  together : ∀ pair ∈ cores, pair.1.slot = pair.2.slot
  ascending : cores.Pairwise fun a b => a.1.slot < b.1.slot

/-- Cores that are paired by their place are paired by their slot, if both configurations fill the
same slots. -/
theorem slotWise_zip {current next : Configuration} (same : next.slots = current.slots) :
    SlotWise current next (current.cores.zip next.cores) := by
  have size : next.cores.length = current.cores.length := by
    simpa [Configuration.slots] using congrArg List.length same
  have outgoing : (current.cores.zip next.cores).map (·.1) = current.cores :=
    List.map_fst_zip (Nat.le_of_eq size.symm)
  refine ⟨outgoing, List.map_snd_zip (Nat.le_of_eq size), fun pair mem => ?_, ?_⟩
  · obtain ⟨place, entry⟩ := List.getElem?_of_mem mem
    obtain ⟨first, second⟩ := List.getElem?_zip_eq_some.mp entry
    have slots : next.slots[place]? = current.slots[place]? := by rw [same]
    simpa [Configuration.slots, first, second] using slots.symm
  · have ascending := current.ascending
    rwa [← outgoing, List.pairwise_map] at ascending

namespace Processor

variable {processor : Processor} {name : String} {next : Configuration} {σ : Type} [Board σ]

/-- A switch leaves the processor as it was, unless it is granted. -/
theorem processor_switchTo (processor : Processor) (name : String) (board : σ) :
    (processor.switchTo name board).2.1 =
      if (processor.switchTo name board).1.isOk then processor.activate name else processor := by
  rcases processor.switchTo_cases name board with
    ⟨_, refused⟩ | ⟨_, -, -, -, ⟨_, _, -, refused⟩ | ⟨_, -, granted⟩⟩
  · rw [refused]
    rfl
  · rw [refused]
    rfl
  · rw [granted]
    rfl

/-- In a well-formed processor the models that are handed over belong to cores of one slot each. -/
theorem WF.exists_slotWise (h : processor.WF) (known : processor.configuration? name = some next) :
    ∃ current cores, processor.configuration? processor.active = some current ∧
      SlotWise current next cores ∧
      processor.handOver next = cores.map fun (outgoing, incoming) =>
        (outgoing.model, incoming.model) := by
  obtain ⟨current, hcurrent, hcores⟩ := h.exists_current?
  obtain ⟨slots, aligned⟩ := h.layout
  have same : next.slots = current.slots :=
    (aligned next (configuration?_eq_some known).1).trans
      (aligned current (configuration?_eq_some hcurrent).1).symm
  refine ⟨current, current.cores.zip next.cores, hcurrent, slotWise_zip same, ?_⟩
  rw [handOver, Processor.models, hcores, Configuration.models, List.zip_map]
  rfl

theorem configuration?_eq_none_iff :
    processor.configuration? name = none ↔ name ∉ processor.outline.map (·.name) := by
  rw [map_outline (·.name) fun _ => rfl, ← exists_configuration?_iff, ← Option.ne_none_iff_exists',
    not_not]

end Processor

namespace Machine

variable {machine : Machine} {configurations : List Configuration} {σ : Type} [Board σ]

/-- No switch is left half done. Whatever a machine was called for before, on boards that may grant
or refuse anything, a switch of its processor is refused on sight, for having joined no board, for
an unknown name or for the active one, and then asks the board for nothing. Or it asks for just one
swap, of the cores of each slot, lowest slot first, and answers what the board answers. On an error
the processor is what it was. If the board grants the swap, the cores of the active configuration
are switched out, those of the other one no longer are, that one is active, and nothing else has
changed. -/
theorem switches_whole (made : machine.MadeOf configurations) (calls : List (Call × σ))
    (name : String) (board : σ) (asked : List Board.Request) :
    let processor := (machine.after calls).processor
    let watched : Watched σ := { board, asked }
    let outcome := processor.switchTo name watched
    (outcome.1, outcome.2.1, outcome.2.2.board) = processor.switchTo name board ∧
    (processor.isIncorporated = false →
      outcome = (.error .notIncorporated, processor, watched)) ∧
    (processor.isIncorporated = true → name ∉ configurations.map (·.name) →
      outcome = (.error (.unknownConfiguration name), processor, watched)) ∧
    (processor.isIncorporated = true → name ∈ configurations.map (·.name) →
      name = processor.active →
      outcome = (.error (.alreadyActive name), processor, watched)) ∧
    (processor.isIncorporated = true → name ∈ configurations.map (·.name) →
      name ≠ processor.active →
      ∃ current next cores, processor.configuration? processor.active = some current ∧
        processor.configuration? name = some next ∧ SlotWise current next cores ∧
        let pairs := cores.map fun (outgoing, incoming) => (outgoing.model, incoming.model)
        outcome.1 = (Board.swap pairs board).1.mapError .board ∧
        outcome.2.2 = { board := (Board.swap pairs board).2, asked := asked ++ [.swap pairs] }) ∧
    (∀ error, outcome.1 = .error error → outcome.2.1 = processor) ∧
    (outcome.1 = .ok () → outcome.2.1 =
      { processor with
        active := name
        configurations := processor.configurations.map fun configuration =>
          if configuration.name = processor.active then configuration.setSwitchedOut true
          else if configuration.name = name then configuration.setSwitchedOut false
          else configuration }) := by
  intro processor watched outcome
  have kept : Intact configurations (machine.after calls) := made.intact.1.after calls
  have wf : processor.WF := kept.wf
  have unknown_iff : processor.configuration? name = none ↔ name ∉ configurations.map (·.name) := by
    rw [Processor.configuration?_eq_none_iff, kept.supplied, List.map_map]
    rfl
  have exists_known (mem : name ∈ configurations.map (·.name)) :
      ∃ next, processor.configuration? name = some next :=
    Option.ne_none_iff_exists'.mp fun unknown => unknown_iff.mp unknown mem
  have unseen : processor.switchTo name board = (outcome.1, outcome.2.1, outcome.2.2.board) :=
    Processor.switchTo_along (f := Watched.board) (fun _ _ => rfl) processor name watched
  refine ⟨unseen.symm, fun alone => ?_, fun joined strange => ?_, fun joined mem active => ?_,
    fun joined mem other => ?_, ?_⟩
  · refine Processor.switchTo_of_switchError? ?_ watched
    simp [Processor.switchError?, alone]
  · refine Processor.switchTo_of_switchError? ?_ watched
    simp [Processor.switchError?, joined, unknown_iff.mpr strange]
  · obtain ⟨next, known⟩ := exists_known mem
    refine Processor.switchTo_of_switchError? ?_ watched
    rw [wf.switchError?_of_known known, joined, if_pos active]
    rfl
  · obtain ⟨next, known⟩ := exists_known mem
    have free : processor.switchError? name = none := by
      rw [wf.switchError?_of_known known, joined, if_neg other]
      rfl
    obtain ⟨current, cores, hcurrent, slotWise, pairs⟩ := wf.exists_slotWise known
    have swapped := Processor.switchTo_of_swap free known (Watched.swap_eq _ watched)
    rw [pairs] at swapped
    exact ⟨current, next, cores, hcurrent, known, slotWise, congrArg (·.1) swapped,
      congrArg (·.2.2) swapped⟩
  · have after : outcome.2.1 = if outcome.1.isOk then processor.activate name else processor :=
      processor.processor_switchTo name watched
    exact ⟨fun _ failed => by rw [after, failed]; rfl, fun granted => by rw [after, granted]; rfl⟩

/-- A switch of two cores at once, which the board refuses once and grants once. -/
theorem switches_whole_quad :
    let calls : List (Call × Recorder) := [(.switchTo "second", {}), (.incorporate, {})]
    let processor := (quad.after calls).processor
    let stuck : Watched Recorder := { board := { armedSwap := some "stuck" }, asked := [] }
    let free : Watched Recorder := { board := {}, asked := [] }
    quad.MadeOf [twinCores "first" ⟨0⟩ ⟨1⟩, twinCores "second" ⟨3⟩ ⟨2⟩] ∧
      processor.isIncorporated = true ∧ processor.active = "first" ∧
      processor.switchTo "third" stuck =
        (.error (.unknownConfiguration "third"), processor, stuck) ∧
      processor.switchTo "first" stuck = (.error (.alreadyActive "first"), processor, stuck) ∧
      (processor.switchTo "second" stuck).1 = .error (.board (.swapFailed "stuck")) ∧
      (processor.switchTo "second" stuck).2.1 = processor ∧
      (processor.switchTo "second" stuck).2.2.asked = [.swap [(⟨0⟩, ⟨3⟩), (⟨1⟩, ⟨2⟩)]] ∧
      let granted := (processor.switchTo "second" free).2.1
      (processor.switchTo "second" free).1 = .ok () ∧
      (processor.switchTo "second" free).2.2.asked = [.swap [(⟨0⟩, ⟨3⟩), (⟨1⟩, ⟨2⟩)]] ∧
      granted.active = "second" ∧
      granted.allCores.map (fun core => (core.model, core.switchedOut)) =
        [(⟨0⟩, true), (⟨1⟩, true), (⟨3⟩, false), (⟨2⟩, false)] := by
  intro calls processor stuck free
  have made : quad.MadeOf [twinCores "first" ⟨0⟩ ⟨1⟩, twinCores "second" ⟨3⟩ ⟨2⟩] :=
    .switchable create_quad
  have whole (name : String) := switches_whole made calls name stuck.board []
  obtain ⟨-, -, unknown, -⟩ := whole "third"
  obtain ⟨-, -, -, active, -⟩ := whole "first"
  obtain ⟨-, -, -, -, -, refused, -⟩ := whole "second"
  obtain ⟨-, -, -, -, -, -, granted⟩ := switches_whole made calls "second" free.board []
  have switched := granted rfl
  refine ⟨made, rfl, rfl, unknown rfl (by decide), active rfl (by decide) rfl, rfl,
    refused (.board (.swapFailed "stuck")) rfl, rfl, rfl, rfl, ?_, ?_⟩
  · rw [switched]
  · rw [switched]
    rfl

end Machine

end Polycore
