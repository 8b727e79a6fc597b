import Polycore.Proofs.Processor.Ordering
import Polycore.Proofs.Processor.Requests

/-!
# Pairs

A pair has a start side and a switch side and stands on one of them (`PairProcessor.Sided`). On any
board a toggle asks for one thing, the switch to the other side (`PairProcessor.toggle_cases`), and
after one that is granted the pair stands there.
-/

namespace Polycore

namespace PairProcessor

variable {pair next : PairProcessor} {onStart : Bool}

/-- The name of a side. -/
def sideName (onStart : Bool) : String :=
  if onStart then startName else switchName

theorem sideName_not_ne (onStart : Bool) : sideName (!onStart) ≠ sideName onStart := by
  cases onStart <;> decide

theorem otherSide_eq (pair : PairProcessor) : pair.otherSide = sideName (!pair.onStart) := by
  cases h : pair.onStart <;> simp [otherSide, sideName, h]

/-- The cores of a side, in the order of their slots. -/
def coresOn (pair : PairProcessor) (onStart : Bool) : List CoreHandle :=
  ((pair.processor.configuration? (sideName onStart)).map (·.cores)).getD []

/-- What a side shows of its cores does not depend on who is switched out. -/
theorem map_coresOn_of_outline {α : Type} (view : CoreHandle → α)
    (h : ∀ core, view (core.setSwitchedOut false) = view core)
    (same : next.processor.outline = pair.processor.outline) (onStart : Bool) :
    (next.coresOn onStart).map view = (pair.coresOn onStart).map view := by
  have seen (pair : PairProcessor) : (pair.coresOn onStart).map view =
      ((pair.processor.configuration? (sideName onStart)).map
        fun configuration => configuration.cores.map view).getD [] := by
    unfold coresOn
    cases pair.processor.configuration? (sideName onStart) with
    | none => rfl
    | some configuration => rfl
  rw [seen, seen, Processor.map_configuration?_of_outline _ _ same]
  intro configuration
  simp [Configuration.setSwitchedOut, Function.comp_def, h]

/-- A pair with its two sides that stands on the one that it says. -/
structure Sided (pair : PairProcessor) : Prop where
  names : pair.processor.configurations.map (·.name) = [startName, switchName]
  active : pair.processor.active = sideName pair.onStart

namespace Sided

theorem cores_eq (h : Sided pair) : pair.processor.cores = pair.coresOn pair.onStart := by
  rw [Processor.cores, Processor.current?, h.active, coresOn]

theorem allCores_eq (h : Sided pair) :
    pair.processor.allCores = pair.coresOn true ++ pair.coresOn false := by
  have names := h.names
  obtain ⟨start, rest, same, first, rest'⟩ := List.map_eq_cons_iff.mp names
  obtain ⟨switch, _, rfl, second, none⟩ := List.map_eq_cons_iff.mp rest'
  obtain rfl := List.map_eq_nil_iff.mp none
  simp [Processor.allCores, coresOn, Processor.configuration?, same, sideName, first, second,
    startName, switchName]

theorem exists_configuration? (h : Sided pair) (onStart : Bool) :
    ∃ configuration, pair.processor.configuration? (sideName onStart) = some configuration := by
  have mem : sideName onStart ∈ pair.processor.configurations.map (·.name) := by
    rw [h.names]
    cases onStart <;> simp [sideName]
  obtain ⟨configuration, hconfiguration, name⟩ := List.mem_map.mp mem
  refine Option.isSome_iff_exists.mp (List.find?_isSome.mpr ⟨configuration, hconfiguration, ?_⟩)
  simpa using name

theorem of_outline (h : Sided pair) (same : next.processor.outline = pair.processor.outline)
    (active : next.processor.active = sideName next.onStart) : Sided next where
  names := by
    rw [Processor.map_eq_of_outline (·.name) (fun _ => rfl) same]
    exact h.names
  active := active

end Sided

theorem sided_of_ofPairs {pairs : List (CoreHandle × CoreHandle)} (h : ofPairs pairs = .ok pair) :
    Sided pair := by
  obtain ⟨start, switch, hstart, hswitch, created, onStart⟩ := exists_of_ofPairs h
  obtain ⟨_, -, -, -, -, -, processor⟩ := Processor.exists_of_create created
  refine ⟨?_, ?_⟩
  · rw [processor, ← Configuration.name_of_ofCores hstart, ← Configuration.name_of_ofCores hswitch]
    rfl
  · rw [processor, onStart]
    rfl

/-- The other side of a pair is always there to go to. -/
theorem Sided.switchError?_otherSide (h : Sided pair) (wf : pair.processor.WF) :
    pair.processor.switchError? pair.otherSide =
      if !pair.processor.isIncorporated then some .notIncorporated else none := by
  obtain ⟨target, known⟩ := h.exists_configuration? (!pair.onStart)
  rw [← pair.otherSide_eq] at known
  have other : pair.otherSide ≠ pair.processor.active := by
    rw [pair.otherSide_eq, h.active]
    exact sideName_not_ne pair.onStart
  rw [wf.switchError?_of_known known, if_neg other]

/-! ## On a board -/

variable {σ : Type} [Board σ]

/-- The pair on its other side. -/
def toggled (pair : PairProcessor) : PairProcessor :=
  { pair with
    processor := pair.processor.activate pair.otherSide
    onStart := !pair.onStart }

theorem Sided.toggled (h : Sided pair) : Sided pair.toggled :=
  h.of_outline (Processor.outline_activate _ _) pair.otherSide_eq

/-- A toggle that is refused leaves the pair where it is, and one that is granted takes it to the
other side. -/
theorem toggle_cases (pair : PairProcessor) (board : σ) :
    (∃ error board', pair.processor.switchTo pair.otherSide board =
        (.error error, pair.processor, board') ∧
      pair.toggle board = (.error error, pair, board')) ∨
    ∃ board', pair.processor.switchTo pair.otherSide board =
        (.ok (), pair.processor.activate pair.otherSide, board') ∧
      pair.toggle board = (.ok (), pair.toggled, board') := by
  unfold toggle
  rcases pair.processor.switchTo_cases pair.otherSide board with
    ⟨error, refused⟩ | ⟨_, -, -, -, ⟨_, board', -, refused⟩ | ⟨board', -, granted⟩⟩
  · rw [refused]
    exact .inl ⟨error, board, rfl, rfl⟩
  · rw [refused]
    exact .inl ⟨_, board', rfl, rfl⟩
  · rw [granted]
    exact .inr ⟨board', rfl, rfl⟩

theorem toggle_of_swap {target : Configuration}
    (free : pair.processor.switchError? pair.otherSide = none)
    (known : pair.processor.configuration? pair.otherSide = some target) {board board' : σ}
    {answer : Except BoardError Unit}
    (swapped : Board.swap (pair.processor.handOver target) board = (answer, board')) :
    pair.toggle board =
      (answer.mapError .board, if answer.isOk then pair.toggled else pair, board') := by
  rw [toggle, Processor.switchTo_of_swap free known swapped]
  cases answer with
  | error error => rfl
  | ok => rfl

/-- An incorporation leaves a pair on its side. -/
theorem incorporate_cases (pair : PairProcessor) (board : σ) :
    (∃ error board', pair.incorporate board = (.error error, pair, board')) ∨
    ∃ bindings memMode board', pair.incorporate board =
      (.ok (),
        { pair with
          processor := pair.processor.incorporated bindings
          memMode }, board') := by
  unfold incorporate
  rcases pair.processor.incorporate_cases board with
    ⟨error, board', refused⟩ | ⟨bindings, board', -, granted⟩
  · rw [refused]
    exact .inl ⟨error, board', rfl⟩
  · rw [granted]
    exact .inr ⟨bindings, _, _, rfl⟩

theorem Sided.incorporated (h : Sided pair) (bindings : List (ModelId × Timeline))
    (memMode : MemMode) :
    Sided { pair with processor := pair.processor.incorporated bindings, memMode } :=
  h.of_outline (Processor.outline_incorporated _ _) h.active

end PairProcessor

end Polycore
