import Polycore.Board.Recorder
import Polycore.Proofs.Processor.Machines

/-!
# What a machine stands by

A machine that is called on boards which may grant or refuse anything stays what it was made of,
apart from who is switched out and, once, the timelines of its models (`Machine.Intact`). A call
breaks none of it (`Intact.call`), so no sequence of calls does (`Intact.after`). The main statement
is `Machine.stands_by_construction`.
-/

namespace Polycore

namespace Processor

variable {processor : Processor} {name : String}

theorem WF.switchError?_ne_slotCountMismatch (h : processor.WF) (name configuration : String)
    (expected found : Nat) :
    processor.switchError? name ≠ some (.slotCountMismatch configuration expected found) := by
  cases known : processor.configuration? name with
  | none => cases alone : processor.isIncorporated <;> simp [switchError?, known, alone]
  | some next =>
    rw [h.switchError?_of_known known]
    split
    · simp
    · split <;> simp

theorem WF.ascending_slots (h : processor.WF) : ∃ slots : List Nat, slots.Pairwise (· < ·) ∧
    ∀ configuration ∈ processor.configurations, configuration.slots = slots := by
  obtain ⟨slots, aligned⟩ := h.layout
  obtain ⟨current, mem, -⟩ := h.active
  refine ⟨slots, ?_, aligned⟩
  rw [← aligned current mem]
  exact List.pairwise_map.mpr current.ascending

/-- Exactly the cores of the active configuration are not switched out. -/
theorem WF.exists_switchedIn (h : processor.WF) :
    ∃ current ∈ processor.configurations, current.name = processor.active ∧
      ∀ core ∈ processor.allCores, core.switchedOut = false ↔ core ∈ current.cores := by
  obtain ⟨current, currentMem, currentName⟩ := h.active
  refine ⟨current, currentMem, currentName, fun core mem => ?_⟩
  obtain ⟨configuration, hconfiguration, hcore⟩ := List.mem_flatMap.mp mem
  constructor
  · intro switchedIn
    rw [h.flags configuration hconfiguration core hcore, bne_eq_false_iff_eq] at switchedIn
    obtain rfl := List.inj_on_of_nodup_map h.names hconfiguration currentMem
      (switchedIn.trans currentName.symm)
    exact hcore
  · intro active
    rw [h.flags current currentMem core active, bne_eq_false_iff_eq]
    exact currentName

variable {σ : Type} [Board σ]

/-- An error of a switch that did not come from the board was seen before the board was asked. -/
theorem switchError?_of_switchTo {error : ProcessorError} {board : σ}
    (h : (processor.switchTo name board).1 = .error error)
    (own : ∀ refusal, error ≠ .board refusal) : processor.switchError? name = some error := by
  cases found : processor.switchError? name with
  | some first =>
    rw [switchTo_of_switchError? found] at h
    cases h
    rfl
  | none =>
    obtain ⟨-, next, known, -, -⟩ := exists_of_switchError?_eq_none found
    rcases swapped : Board.swap (processor.handOver next) board with ⟨refusal | _, board'⟩
    · rw [switchTo_of_swap found known swapped] at h
      cases h
      exact absurd rfl (own refusal)
    · rw [switchTo_of_swap found known swapped] at h
      cases h

end Processor

namespace PairProcessor

variable {pair : PairProcessor} {σ : Type} [Board σ]

theorem toggle_answer (pair : PairProcessor) (board : σ) :
    (pair.toggle board).1 = (pair.processor.switchTo pair.otherSide board).1 := by
  rcases pair.toggle_cases board with ⟨_, _, switched, toggled⟩ | ⟨_, switched, toggled⟩
  · rw [toggled, switched]
  · rw [toggled, switched]

end PairProcessor

namespace Machine

variable {machine : Machine} {configurations : List Configuration} {name : String} {σ : Type}
  [Board σ]

/-! ## Calls -/

/-- What a machine can be called for. -/
inductive Call where
  | incorporate
  | switchTo (name : String)

/-- What a call gives, on the board as it stands. -/
def answer (machine : Machine) (board : σ) : Call → Processor.Outcome Machine σ
  | .incorporate => machine.incorporate board
  | .switchTo name => machine.switchTo name board

/-- The machine after some calls. Each of them may find the board in any state. -/
def after (machine : Machine) (calls : List (Call × σ)) : Machine :=
  calls.foldl (fun machine (call, board) => (machine.answer board call).2.1) machine

/-- Some incorporation among the calls is granted. -/
def Joins (machine : Machine) : List (Call × σ) → Prop
  | [] => False
  | (call, board) :: later =>
    call = .incorporate ∧ (machine.incorporate board).1 = .ok () ∨
      (machine.answer board call).2.1.Joins later

/-- The machines that come out of the ways to put a processor together, with the configurations of
which they are made. -/
inductive MadeOf : List Configuration → Machine → Prop where
  | switchable {configurations : List Configuration} {starting : String} {processor : Processor}
    (h : Processor.create configurations starting = .ok processor) :
    MadeOf configurations (.switchable processor)
  | pair {pairs : List (CoreHandle × CoreHandle)} {start switch : Configuration}
    {processor : PairProcessor}
    (first : Configuration.ofCores PairProcessor.startName (pairs.map (·.1)) = .ok start)
    (second : Configuration.ofCores PairProcessor.switchName (pairs.map (·.2)) = .ok switch)
    (h : PairProcessor.ofPairs pairs = .ok processor) :
    MadeOf [start, switch] (.pair processor)

/-- What a machine made of some configurations stands by. -/
structure Intact (configurations : List Configuration) (machine : Machine) : Prop where
  wf : machine.processor.WF
  /-- only who is switched out may differ from what was supplied -/
  supplied : machine.processor.outline = configurations.map (·.setSwitchedOut false)
  /-- a pair stands on the side that it says -/
  sided : ∀ pair, machine = .pair pair → pair.Sided
  /-- there are timelines for all models, or for none -/
  timed : ∀ timelines, machine.processor.timelines = some timelines →
    timelines.map (·.1) = machine.processor.allCores.map (·.model)

namespace Intact

theorem of_processor {next : Machine} (h : Intact configurations machine) (wf : next.processor.WF)
    (outline : next.processor.outline = machine.processor.outline)
    (sided : ∀ pair, next = .pair pair → pair.Sided)
    (timed : ∀ timelines, next.processor.timelines = some timelines →
      timelines.map (·.1) = machine.processor.allCores.map (·.model)) :
    Intact configurations next where
  wf := wf
  supplied := outline.trans h.supplied
  sided := sided
  timed timelines known := by
    rw [Processor.models_allCores_of_outline outline]
    exact timed timelines known

theorem switched (h : Intact configurations machine) {next : Configuration}
    (known : machine.processor.configuration? (machine.target name) = some next)
    (other : machine.target name ≠ machine.processor.active) :
    Intact configurations (machine.switched name) := by
  have processor := machine.processor_switched name
  refine h.of_processor ?_ ?_ ?_ ?_
  · rw [processor]
    exact h.wf.activate known other
  · rw [processor, Processor.outline_activate]
  · intro pair same
    cases machine with
    | switchable => cases same
    | pair before =>
      cases same
      exact (h.sided before rfl).toggled
  · rw [processor]
    exact h.timed

theorem switchTo (h : Intact configurations machine) (name : String) (board : σ) :
    Intact configurations (machine.switchTo name board).2.1 := by
  cases found : machine.processor.switchError? (machine.target name) with
  | some error =>
    rw [switchTo_of_switchError? found]
    exact h
  | none =>
    obtain ⟨-, next, known, other, -⟩ := Processor.exists_of_switchError?_eq_none found
    rcases swapped : Board.swap (machine.processor.handOver next) board with ⟨_ | _, board'⟩
    · rw [switchTo_of_swap found known swapped]
      exact h
    · rw [switchTo_of_swap found known swapped]
      exact h.switched known other

theorem joined (h : Intact configurations machine) (bindings : List (ModelId × Timeline))
    (board : σ) : Intact configurations (machine.joined bindings board).1 := by
  have processor := machine.processor_joined bindings board
  refine h.of_processor ?_ ?_ ?_ ?_
  · rw [processor]
    exact h.wf.incorporated bindings
  · rw [processor, Processor.outline_incorporated]
  · intro pair same
    cases machine with
    | switchable => cases same
    | pair before =>
      cases same
      exact (h.sided before rfl).incorporated bindings _
  · intro timelines known
    rw [processor] at known
    cases known
    simp

theorem incorporate (h : Intact configurations machine) (board : σ) :
    Intact configurations (machine.incorporate board).2.1 := by
  cases free : machine.processor.joining with
  | error error =>
    rw [incorporate_of_joining_error free]
    exact h
  | ok bindings =>
    rcases bound : Processor.bindAccelerated bindings board with ⟨_ | _, board'⟩
    · rw [incorporate_of_refused free bound]
      exact h
    · rw [incorporate_of_granted free bound]
      exact h.joined bindings board'

/-- No call breaks what a machine stands by. -/
theorem answer (h : Intact configurations machine) (board : σ) (call : Call) :
    Intact configurations (machine.answer board call).2.1 := by
  cases call with
  | incorporate => exact h.incorporate board
  | switchTo name => exact h.switchTo name board

theorem after (h : Intact configurations machine) (calls : List (Call × σ)) :
    Intact configurations (machine.after calls) := by
  induction calls generalizing machine with
  | nil => exact h
  | cons call rest ih => exact ih (h.answer call.2 call.1)

end Intact

theorem intact_of_create {starting : String} {processor : Processor}
    (h : Processor.create configurations starting = .ok processor)
    (sided : ∀ pair, machine = .pair pair → pair.Sided)
    (same : machine.processor = processor) :
    Intact configurations machine ∧ machine.processor.timelines = none := by
  obtain ⟨_, -, -, -, -, -, made⟩ := Processor.exists_of_create h
  have alone : machine.processor.timelines = none := by rw [same, made]
  refine ⟨⟨same ▸ Processor.create_wf h, ?_, sided, ?_⟩, alone⟩
  · rw [same, made]
    exact Processor.outline_markSwitchedOut starting configurations
  · rw [alone]
    exact nofun

/-- A machine that has just been made stands by what it was made of, and has no timelines yet. -/
theorem MadeOf.intact (h : machine.MadeOf configurations) :
    Intact configurations machine ∧ machine.processor.timelines = none := by
  cases h with
  | switchable created => exact intact_of_create created nofun rfl
  | pair first second made =>
    obtain ⟨_, _, hfirst, hsecond, created, -⟩ := PairProcessor.exists_of_ofPairs made
    cases first.symm.trans hfirst
    cases second.symm.trans hsecond
    refine intact_of_create created (fun pair same => ?_) rfl
    cases same
    exact PairProcessor.sided_of_ofPairs made

/-! ## Timelines -/

/-- A machine that has joined a board keeps its timelines. -/
theorem timelines_answer (h : machine.processor.isIncorporated = true) (board : σ) (call : Call) :
    (machine.answer board call).2.1.processor.timelines = machine.processor.timelines := by
  cases call with
  | incorporate =>
    rcases machine.incorporate_cases board with ⟨_, _, _, refused, same⟩ | ⟨_, _, _, alone, -⟩
    · rw [answer, refused]
      exact congrArg Processor.timelines same
    · cases h.symm.trans alone
  | switchTo name => exact machine.timelines_switchTo name board

theorem isIncorporated_answer (machine : Machine) (board : σ) (call : Call) :
    (machine.answer board call).2.1.processor.isIncorporated = true ↔
      machine.processor.isIncorporated = true ∨
        call = .incorporate ∧ (machine.incorporate board).1 = .ok () := by
  cases call with
  | incorporate =>
    rcases machine.incorporate_cases board with
      ⟨_, _, _, refused, same⟩ | ⟨bindings, _, _, -, granted, same⟩
    · simp [answer, refused, same]
    · simp [answer, granted, same, Processor.incorporated, Processor.isIncorporated]
  | switchTo name =>
    simp [answer, Processor.isIncorporated, machine.timelines_switchTo name board]

theorem isIncorporated_after (machine : Machine) (calls : List (Call × σ)) :
    (machine.after calls).processor.isIncorporated = true ↔
      machine.processor.isIncorporated = true ∨ machine.Joins calls := by
  induction calls generalizing machine with
  | nil => simp [after, Joins]
  | cons call rest ih =>
    obtain ⟨call, board⟩ := call
    refine (ih (machine.answer board call).2.1).trans ?_
    rw [isIncorporated_answer, Joins, or_assoc]

theorem timelines_after (h : machine.processor.isIncorporated = true) (calls : List (Call × σ)) :
    (machine.after calls).processor.timelines = machine.processor.timelines := by
  induction calls generalizing machine with
  | nil => rfl
  | cons call rest ih =>
    obtain ⟨call, board⟩ := call
    have kept := machine.timelines_answer h board call
    refine (ih ?_).trans kept
    rw [Processor.isIncorporated, kept]
    exact h

theorem isSome_timeline?_iff {processor : Processor} {timelines : List (ModelId × Timeline)}
    (h : processor.timelines = some timelines) (model : ModelId) :
    (processor.timeline? model).isSome = true ↔ model ∈ timelines.map (·.1) := by
  rw [Processor.timeline?, h, Option.bind_some, List.lookup_isSome_iff, List.mem_map]
  simp only [beq_iff_eq, eq_comm (a := model)]

namespace Intact

/-- What does not depend on who is switched out is as it was supplied. -/
theorem map_supplied (h : Intact configurations machine) {α : Type} (view : Configuration → α)
    (unflagged : ∀ c, view (c.setSwitchedOut false) = view c) :
    machine.processor.configurations.map view = configurations.map view := by
  rw [← Processor.map_outline view unflagged, h.supplied, List.map_map]
  exact List.map_congr_left fun c _ => unflagged c

theorem models_allCores (h : Intact configurations machine) :
    machine.processor.allCores.map (·.model) = configurations.flatMap (·.models) := by
  rw [Processor.allCores, List.map_flatMap]
  exact congrArg List.flatten (h.map_supplied (·.models) fun c => c.models_setSwitchedOut false)

theorem isSome_timeline?_iff (h : Intact configurations machine)
    (incorporated : machine.processor.isIncorporated = true) (model : ModelId) :
    (machine.processor.timeline? model).isSome = true ↔
      model ∈ configurations.flatMap (·.models) := by
  obtain ⟨timelines, known⟩ := Option.isSome_iff_exists.mp incorporated
  rw [Machine.isSome_timeline?_iff known, h.timed timelines known, h.models_allCores]

end Intact

/-! ## What the calls never show -/

theorem answer_switchTo (machine : Machine) (name : String) (board : σ) :
    (machine.switchTo name board).1 =
      (machine.processor.switchTo (machine.target name) board).1 :=
  congrArg Prod.fst (switchTo_of_processor rfl)

/-- A pair stays a pair. -/
theorem exists_pair_after (first : PairProcessor) (calls : List (Call × σ)) :
    ∃ last, (pair first).after calls = .pair last := by
  induction calls generalizing first with
  | nil => exact ⟨first, rfl⟩
  | cons call rest ih =>
    obtain ⟨call, board⟩ := call
    cases call with
    | incorporate => exact ih (first.incorporate board).2.1
    | switchTo name => exact ih (first.toggle board).2.1

theorem Intact.toggle_ne {pair : PairProcessor} (h : Intact configurations (.pair pair))
    {board : σ} {error : ProcessorError} (own : ∀ refusal, error ≠ .board refusal)
    (other : error ≠ .notIncorporated) : (pair.toggle board).1 ≠ .error error := by
  intro answered
  rw [pair.toggle_answer] at answered
  have seen := Processor.switchError?_of_switchTo answered own
  rw [(h.sided pair rfl).switchError?_otherSide h.wf] at seen
  split at seen
  · exact other (Option.some.inj seen).symm
  · cases seen

/-- Whatever a machine is called for, on boards that may grant or refuse anything: it keeps the
configurations of which it was made, apart from who is switched out; they all fill the same slots in
ascending order and share no model; exactly the cores of the active one are not switched out; its
models have timelines from the first incorporation that is granted on, and keep them for good; no
switch finds configurations of different sizes. A pair stands on the side that it says, so that it
can always name the other one. -/
theorem stands_by_construction (made : machine.MadeOf configurations) (calls : List (Call × σ)) :
    let later := machine.after calls
    let processor := later.processor
    processor.outline = configurations.map (·.setSwitchedOut false) ∧
    (∃ slots : List Nat, slots.Pairwise (· < ·) ∧
      ∀ configuration ∈ processor.configurations, configuration.slots = slots) ∧
    (processor.configurations.flatMap (·.models)).Nodup ∧
    (∃ current ∈ processor.configurations, current.name = processor.active ∧
      ∀ core ∈ processor.allCores, core.switchedOut = false ↔ core ∈ current.cores) ∧
    (¬ machine.Joins calls → ∀ model, processor.timeline? model = none) ∧
    (machine.Joins calls →
      (∀ model, (processor.timeline? model).isSome = true ↔
        model ∈ configurations.flatMap (·.models)) ∧
      ∀ (further : List (Call × σ)) model,
        (later.after further).processor.timeline? model = processor.timeline? model) ∧
    (∀ name (board : σ) configuration expected found, (later.switchTo name board).1 ≠
      .error (.slotCountMismatch configuration expected found)) ∧
    ∀ first, machine = .pair first → ∃ pair, later = .pair pair ∧
      (pair.onStart = true ↔ pair.processor.active = PairProcessor.startName) ∧
      ∀ (board : σ) name, (pair.toggle board).1 ≠ .error (.alreadyActive name) ∧
        (pair.toggle board).1 ≠ .error (.unknownConfiguration name) := by
  intro later processor
  obtain ⟨intact, alone⟩ := made.intact
  have kept : Intact configurations later := intact.after calls
  have joined : processor.isIncorporated = true ↔ machine.Joins calls := by
    refine (machine.isIncorporated_after calls).trans (or_iff_right ?_)
    simp [Processor.isIncorporated, alone]
  refine ⟨kept.supplied, kept.wf.ascending_slots, kept.wf.models, kept.wf.exists_switchedIn, ?_, ?_,
    ?_, ?_⟩
  · intro apart model
    rw [← joined, Processor.isIncorporated, Option.not_isSome_iff_eq_none] at apart
    rw [Processor.timeline?, apart]
    rfl
  · intro joins
    have incorporated := joined.mpr joins
    refine ⟨kept.isSome_timeline?_iff incorporated, fun further model => ?_⟩
    rw [Processor.timeline?, later.timelines_after incorporated, Processor.timeline?]
  · intro name board configuration expected found answered
    rw [answer_switchTo] at answered
    exact kept.wf.switchError?_ne_slotCountMismatch _ configuration expected found
      (Processor.switchError?_of_switchTo answered nofun)
  · rintro first rfl
    obtain ⟨pair, same⟩ := exists_pair_after first calls
    have kept : Intact configurations (.pair pair) := same ▸ kept
    have active := (kept.sided pair rfl).active
    refine ⟨pair, same, ?_, fun board name => ⟨?_, ?_⟩⟩
    · rw [active]
      cases pair.onStart <;> decide
    · exact kept.toggle_ne nofun nofun
    · exact kept.toggle_ne nofun nofun

theorem stands_by_construction_duo :
    let calls : List (Call × Recorder) :=
      [(.switchTo "second", {}), (.incorporate, {}),
        (.switchTo "second", { armedSwap := some "stuck" }), (.switchTo "second", {})]
    let later := duo.after calls
    duo.MadeOf [soleCore "first" ⟨0⟩, soleCore "second" ⟨1⟩] ∧ duo.Joins calls ∧
      later.processor.active = "second" ∧
      (later.processor.timeline? ⟨0⟩).isSome = true ∧
      (later.switchTo "first" ({} : Recorder)).1 ≠ .error (.slotCountMismatch "first" 1 1) := by
  intro calls later
  have made : duo.MadeOf [soleCore "first" ⟨0⟩, soleCore "second" ⟨1⟩] := .switchable create_duo
  have joins : duo.Joins calls := .inr (.inl ⟨rfl, rfl⟩)
  obtain ⟨-, -, -, -, -, timed, fits, -⟩ := stands_by_construction made calls
  exact ⟨made, joins, rfl, ((timed joins).1 ⟨0⟩).mpr (by decide), fits "first" {} "first" 1 1⟩

end Machine

end Polycore
