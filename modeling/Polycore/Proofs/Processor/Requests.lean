import Polycore.Proofs.Processor.WellFormed

/-!
# Requests to a processor

What a switch and an incorporation do on any board. A switch that is granted makes the target the
active configuration after one granted swap, and any other switch leaves the processor as it was
(`Processor.switchTo_cases`). A machine passes the requests on to its processor
(`Machine.exists_switchTo`, `Machine.incorporate_cases`), so all machines keep their processor
well-formed.
-/

namespace Polycore

namespace Processor

variable {processor : Processor} {next : Configuration} {name : String}

theorem models_eq (processor : Processor) :
    processor.models = ((processor.configuration? processor.active).map (·.models)).getD [] := by
  rw [models, cores, current?]
  cases processor.configuration? processor.active with
  | none => rfl
  | some current => rfl

theorem models_activate (known : processor.configuration? name = some next) :
    (processor.activate name).models = next.models := by
  rw [models_eq, map_configuration?_of_outline (·.models)
    (fun c => c.models_setSwitchedOut false) (outline_activate processor name)]
  exact known ▸ rfl

theorem models_incorporated (processor : Processor) (bindings : List (ModelId × Timeline)) :
    (processor.incorporated bindings).models = processor.models := by
  rw [models_eq, map_configuration?_of_outline (·.models)
    (fun c => c.models_setSwitchedOut false) (outline_incorporated processor bindings),
    models_eq processor]
  rfl

/-! ## Switching -/

theorem mem_handOver {place : Nat} {outgoing incoming : ModelId}
    (hout : processor.models[place]? = some outgoing)
    (hin : next.models[place]? = some incoming) :
    (outgoing, incoming) ∈ processor.handOver next :=
  List.mem_of_getElem? (List.getElem?_zip_eq_some.mpr ⟨hout, hin⟩)

/-- What a switch is refused for on sight, before the board is asked for anything. -/
def switchError? (processor : Processor) (name : String) : Option ProcessorError :=
  if !processor.isIncorporated then some .notIncorporated
  else
    match processor.configuration? name with
    | none => some (.unknownConfiguration name)
    | some next =>
      if name = processor.active then some (.alreadyActive name)
      else if next.size ≠ processor.cores.length then
        some (.slotCountMismatch name processor.cores.length next.size)
      else none

theorem exists_of_switchError?_eq_none (h : processor.switchError? name = none) :
    processor.isIncorporated = true ∧ ∃ next, processor.configuration? name = some next ∧
      name ≠ processor.active ∧ next.size = processor.cores.length := by
  unfold switchError? at h
  split at h
  · cases h
  · next incorporated =>
    refine ⟨by simpa using incorporated, ?_⟩
    split at h
    · cases h
    · next next known =>
      split at h
      · cases h
      · next other =>
        split at h
        · cases h
        · next fits => exact ⟨next, known, other, Decidable.not_not.mp fits⟩

/-- All configurations of a well-formed processor fill the same slots, so a known one is refused for
nothing else than being active. -/
theorem WF.switchError?_of_known (h : processor.WF)
    (known : processor.configuration? name = some next) :
    processor.switchError? name =
      if !processor.isIncorporated then some .notIncorporated
      else if name = processor.active then some (.alreadyActive name)
      else none := by
  have fits : next.size = processor.cores.length := by
    have length := h.length_models (configuration?_eq_some known).1
    simpa [Configuration.models, Configuration.size, Processor.models] using length
  simp [switchError?, known, fits]

variable {σ : Type} [Board σ]

theorem switchTo_of_switchError? {error : ProcessorError}
    (h : processor.switchError? name = some error) (board : σ) :
    processor.switchTo name board = (.error error, processor, board) := by
  unfold switchError? at h
  unfold switchTo
  split at h
  · next alone =>
    cases h
    rw [if_pos alone]
  · next incorporated =>
    rw [if_neg incorporated]
    cases known : processor.configuration? name with
    | none =>
      rw [known] at h
      cases h
      rfl
    | some next =>
      rw [known] at h
      dsimp only at h ⊢
      split at h
      · next same =>
        cases h
        rw [if_pos same]
      · next other =>
        rw [if_neg other]
        split at h
        · next misfits =>
          cases h
          rw [if_pos misfits]
        · cases h

/-- What is not refused on sight goes by what the board answers to the swap. -/
theorem switchTo_of_swap (free : processor.switchError? name = none)
    (known : processor.configuration? name = some next) {board board' : σ}
    {answer : Except BoardError Unit}
    (swapped : Board.swap (processor.handOver next) board = (answer, board')) :
    processor.switchTo name board =
      (answer.mapError .board, if answer.isOk then processor.activate name else processor,
        board') := by
  obtain ⟨incorporated, found, hfound, other, fits⟩ := exists_of_switchError?_eq_none free
  cases hfound.symm.trans known
  rw [switchTo, incorporated, known]
  simp only [Bool.not_true, Bool.false_eq_true, if_false, if_neg other, fits, ne_eq,
    not_true_eq_false, swapped]
  cases answer with
  | error error => rfl
  | ok => rfl

/-- A switch is refused on sight, or asks the board for one swap and goes by its answer. -/
theorem switchTo_cases (processor : Processor) (name : String) (board : σ) :
    (∃ error, processor.switchTo name board = (.error error, processor, board)) ∨
    ∃ next, processor.configuration? name = some next ∧ name ≠ processor.active ∧
      next.models.length = processor.models.length ∧
      ((∃ error board', Board.swap (processor.handOver next) board = (.error error, board') ∧
        processor.switchTo name board = (.error (.board error), processor, board')) ∨
      ∃ board', Board.swap (processor.handOver next) board = (.ok (), board') ∧
        processor.switchTo name board = (.ok (), processor.activate name, board')) := by
  cases found : processor.switchError? name with
  | some error => exact .inl ⟨error, switchTo_of_switchError? found board⟩
  | none =>
    obtain ⟨-, next, known, other, fits⟩ := exists_of_switchError?_eq_none found
    refine .inr ⟨next, known, other, ?_, ?_⟩
    · rw [models, Configuration.models, List.length_map, List.length_map]
      exact fits
    · rcases swapped : Board.swap (processor.handOver next) board with ⟨error | _, board'⟩
      · exact .inl ⟨error, board', rfl, switchTo_of_swap found known swapped⟩
      · exact .inr ⟨board', rfl, switchTo_of_swap found known swapped⟩

/-- A change of the board that its answers to swaps do not show goes along with a switch. -/
theorem switchTo_along {τ : Type} [Board τ] {f : σ → τ}
    (swap : ∀ pairs board, Board.swap pairs (f board) = Prod.map id f (Board.swap pairs board))
    (processor : Processor) (name : String) (board : σ) :
    processor.switchTo name (f board) =
      Prod.map id (Prod.map id f) (processor.switchTo name board) := by
  cases found : processor.switchError? name with
  | some error =>
    rw [switchTo_of_switchError? found, switchTo_of_switchError? found]
    rfl
  | none =>
    obtain ⟨-, next, known, -, -⟩ := exists_of_switchError?_eq_none found
    rcases swapped : Board.swap (processor.handOver next) board with ⟨answer, board'⟩
    have along := swap (processor.handOver next) board
    rw [swapped] at along
    rw [switchTo_of_swap found known swapped, switchTo_of_swap found known along]
    rfl

/-! ## Joining a board -/

/-- The timelines that a processor asks of a board that it joins, unless it can join none. -/
def joining (processor : Processor) : Except ProcessorError (List (ModelId × Timeline)) :=
  if processor.isIncorporated then .error .alreadyIncorporated else processor.isolatedTimelines

theorem joining_of_isIncorporated (h : processor.isIncorporated = true) :
    processor.joining = .error .alreadyIncorporated :=
  if_pos h

theorem of_joining_eq_ok {bindings : List (ModelId × Timeline)}
    (h : processor.joining = .ok bindings) :
    processor.isIncorporated = false ∧ processor.isolatedTimelines = .ok bindings := by
  unfold joining at h
  split at h
  · cases h
  · next alone => exact ⟨by simpa using alone, h⟩

theorem incorporate_of_joining_error {error : ProcessorError}
    (h : processor.joining = .error error) (board : σ) :
    processor.incorporate board = (.error error, processor, board) := by
  unfold joining at h
  unfold incorporate
  split at h
  · next joined =>
    cases h
    rw [if_pos joined]
  · next alone => rw [if_neg alone, h]

/-- A processor that can join a board goes by what the board answers to the bindings. -/
theorem incorporate_of_bindAccelerated {bindings : List (ModelId × Timeline)}
    (free : processor.joining = .ok bindings) {board board' : σ} {answer : Except BoardError Unit}
    (bound : bindAccelerated bindings board = (answer, board')) :
    processor.incorporate board =
      (answer.mapError .board, if answer.isOk then processor.incorporated bindings else processor,
        board') := by
  obtain ⟨alone, isolated⟩ := of_joining_eq_ok free
  rw [incorporate, alone, isolated]
  simp only [Bool.false_eq_true, if_false, bound]
  cases answer with
  | error error => rfl
  | ok => rfl

theorem incorporate_cases (processor : Processor) (board : σ) :
    (∃ error board', processor.incorporate board = (.error error, processor, board')) ∨
    ∃ bindings board', processor.isIncorporated = false ∧
      processor.incorporate board = (.ok (), processor.incorporated bindings, board') := by
  cases free : processor.joining with
  | error error => exact .inl ⟨error, board, incorporate_of_joining_error free board⟩
  | ok bindings =>
    rcases bound : bindAccelerated bindings board with ⟨error | _, board'⟩
    · exact .inl ⟨_, board', incorporate_of_bindAccelerated free bound⟩
    · exact .inr ⟨bindings, board', (of_joining_eq_ok free).1,
        incorporate_of_bindAccelerated free bound⟩

section Keeps

variable {P : σ → Prop} (host : ∀ {board}, P board → P (Board.enableHostAcceleration board).2)
  (assign : ∀ {board} model timeline, P board → P (Board.assignTimeline model timeline board).2)

include assign in
theorem assignAll_keeps {bindings : List (ModelId × Timeline)} {board : σ} (h : P board) :
    P (assignAll bindings board).2 := by
  induction bindings generalizing board with
  | nil => exact h
  | cons binding rest ih =>
    have assigned := assign binding.1 binding.2 h
    rw [assignAll]
    split
    · next refused =>
      rw [refused] at assigned
      exact assigned
    · next granted =>
      rw [granted] at assigned
      exact ih assigned

include host assign in
theorem bindAccelerated_keeps (bindings : List (ModelId × Timeline)) {board : σ} (h : P board) :
    P (bindAccelerated bindings board).2 := by
  unfold bindAccelerated
  split
  · exact h
  · have prepared := host h
    split
    · next refused =>
      rw [refused] at prepared
      exact prepared
    · next granted =>
      rw [granted] at prepared
      exact assignAll_keeps assign prepared

include host assign in
/-- What survives the preparation of the host and every assignment of a timeline survives the
incorporation of a processor, granted or refused. -/
theorem incorporate_keeps {processor : Processor} {board : σ} (h : P board) :
    P (processor.incorporate board).2.2 := by
  unfold incorporate
  split
  · exact h
  · split
    · exact h
    · next bindings _ =>
      have bound := bindAccelerated_keeps host assign bindings h
      split
      · next refused =>
        rw [refused] at bound
        exact bound
      · next granted =>
        rw [granted] at bound
        exact bound

end Keeps

section Along

variable {τ : Type} [Board τ] {f : σ → τ}
  (host : ∀ board, Board.enableHostAcceleration (f board) =
    Prod.map id f (Board.enableHostAcceleration board))
  (assign : ∀ model timeline board, Board.assignTimeline model timeline (f board) =
    Prod.map id f (Board.assignTimeline model timeline board))

include assign in
theorem assignAll_along (bindings : List (ModelId × Timeline)) (board : σ) :
    assignAll bindings (f board) = Prod.map id f (assignAll bindings board) := by
  induction bindings generalizing board with
  | nil => rfl
  | cons binding rest ih =>
    rw [assignAll, assign, assignAll]
    rcases Board.assignTimeline binding.1 binding.2 board with ⟨_ | _, board'⟩
    · rfl
    · exact ih board'

include host assign in
/-- A change of the board that its answers do not show, and that goes along with what they make of
the board, goes along with an incorporation. -/
theorem incorporate_along (processor : Processor) (board : σ) :
    processor.incorporate (f board) =
      Prod.map id (Prod.map id f) (processor.incorporate board) := by
  have bound (bindings : List (ModelId × Timeline)) :
      bindAccelerated bindings (f board) = Prod.map id f (bindAccelerated bindings board) := by
    unfold bindAccelerated
    split
    · rfl
    · rw [host]
      rcases Board.enableHostAcceleration board with ⟨_ | _, board'⟩
      · rfl
      · exact assignAll_along assign bindings board'
  unfold incorporate
  split
  · rfl
  · split
    · rfl
    · next bindings _ =>
      rw [bound]
      rcases bindAccelerated bindings board with ⟨_ | _, board'⟩
      · rfl
      · rfl

end Along

end Processor

/-- What `ofPairs` has put together when it gives a pair. -/
theorem PairProcessor.exists_of_ofPairs {pairs : List (CoreHandle × CoreHandle)}
    {pair : PairProcessor} (h : ofPairs pairs = .ok pair) :
    ∃ start switch, Configuration.ofCores startName (pairs.map (·.1)) = .ok start ∧
      Configuration.ofCores switchName (pairs.map (·.2)) = .ok switch ∧
      Processor.create [start, switch] startName = .ok pair.processor ∧ pair.onStart = true := by
  unfold ofPairs at h
  split at h
  · cases h
  · split at h
    · cases h
    · next start hstart =>
      split at h
      · cases h
      · next switch hswitch =>
        split at h
        · cases h
        · next processor created =>
          cases h
          exact ⟨start, switch, hstart, hswitch, created, rfl⟩

/-! ## Machines -/

namespace Machine

variable {σ : Type} [Board σ]

/-- A machine switches its processor, whichever configuration it picks. -/
theorem exists_switchTo (machine : Machine) (name : String) (board : σ) :
    ∃ target, machine.processor.switchTo target board =
      ((machine.switchTo name board).1, (machine.switchTo name board).2.1.processor,
        (machine.switchTo name board).2.2) := by
  cases machine with
  | switchable processor => exact ⟨name, rfl⟩
  | pair pair =>
    refine ⟨pair.otherSide, ?_⟩
    simp only [Machine.switchTo, PairProcessor.toggle, Machine.processor]
    split
    · next h => exact h
    · next h => exact h

theorem incorporate_cases (machine : Machine) (board : σ) :
    (∃ error machine' board', machine.incorporate board = (.error error, machine', board') ∧
      machine'.processor = machine.processor) ∨
    ∃ bindings machine' board', machine.processor.isIncorporated = false ∧
      machine.incorporate board = (.ok (), machine', board') ∧
      machine'.processor = machine.processor.incorporated bindings := by
  cases machine with
  | switchable processor =>
    simp only [incorporate, Machine.processor]
    rcases processor.incorporate_cases board with ⟨error, board', h⟩ | ⟨bindings, board', alone, h⟩
    · rw [h]
      exact .inl ⟨error, _, _, rfl, rfl⟩
    · rw [h]
      exact .inr ⟨bindings, _, _, alone, rfl, rfl⟩
  | pair pair =>
    simp only [incorporate, PairProcessor.incorporate, Machine.processor]
    rcases pair.processor.incorporate_cases board with
      ⟨error, board', h⟩ | ⟨bindings, board', alone, h⟩
    · rw [h]
      exact .inl ⟨error, _, _, rfl, rfl⟩
    · rw [h]
      exact .inr ⟨bindings, _, _, alone, rfl, rfl⟩

theorem isIncorporated_of_incorporate {machine machine' : Machine} {board board' : σ}
    (h : machine.incorporate board = (.ok (), machine', board')) :
    machine'.processor.isIncorporated = true := by
  rcases machine.incorporate_cases board with ⟨_, _, _, refused, -⟩ | ⟨_, _, _, -, granted, same⟩
  · cases h.symm.trans refused
  · cases h.symm.trans granted
    rw [same]
    rfl

/-- What survives the requests of an incorporation survives the incorporation of a machine. -/
theorem incorporate_keeps {P : σ → Prop}
    (host : ∀ {board}, P board → P (Board.enableHostAcceleration board).2)
    (assign : ∀ {board} model timeline, P board → P (Board.assignTimeline model timeline board).2)
    (mode : ∀ {board} memMode, P board → P (Board.setMemMode memMode board))
    {machine : Machine} {board : σ} (h : P board) : P (machine.incorporate board).2.2 := by
  cases machine with
  | switchable processor => exact processor.incorporate_keeps host assign h
  | pair pair =>
    have kept : P (pair.processor.incorporate board).2.2 :=
      pair.processor.incorporate_keeps host assign h
    simp only [incorporate, PairProcessor.incorporate]
    split
    · next refused =>
      rw [refused] at kept
      exact kept
    · next granted =>
      rw [granted] at kept
      exact mode _ kept

/-- A change of the board that its answers do not show goes along with the incorporation of a
machine. -/
theorem incorporate_along {τ : Type} [Board τ] {f : σ → τ}
    (host : ∀ board, Board.enableHostAcceleration (f board) =
      Prod.map id f (Board.enableHostAcceleration board))
    (assign : ∀ model timeline board, Board.assignTimeline model timeline (f board) =
      Prod.map id f (Board.assignTimeline model timeline board))
    (mode : ∀ memMode board,
      Board.setMemMode memMode (f board) = f (Board.setMemMode memMode board))
    (ruby : ∀ board, Board.usesRuby (f board) = Board.usesRuby board)
    (machine : Machine) (board : σ) :
    machine.incorporate (f board) = Prod.map id (Prod.map id f) (machine.incorporate board) := by
  cases machine with
  | switchable processor =>
    simp only [incorporate, processor.incorporate_along host assign]
    rfl
  | pair pair =>
    simp only [incorporate, PairProcessor.incorporate,
      pair.processor.incorporate_along host assign]
    rcases pair.processor.incorporate board with ⟨_ | _, inner, board'⟩
    · rfl
    · simp [PairProcessor.requestedMode, ruby, mode]

/-- The machines that come out of the ways to put a processor together. -/
inductive Created : Machine → Prop where
  | switchable {configurations : List Configuration} {starting : String} {processor : Processor}
    (h : Processor.create configurations starting = .ok processor) :
    Created (.switchable processor)
  | pair {pairs : List (CoreHandle × CoreHandle)} {processor : PairProcessor}
    (h : PairProcessor.ofPairs pairs = .ok processor) : Created (.pair processor)

theorem Created.wf {machine : Machine} (h : machine.Created) : machine.processor.WF := by
  cases h with
  | switchable created => exact Processor.create_wf created
  | pair created =>
    obtain ⟨_, _, -, -, inner, -⟩ := PairProcessor.exists_of_ofPairs created
    exact Processor.create_wf inner

/-- A machine that has just come out has joined no board. -/
theorem Created.alone {machine : Machine} (h : machine.Created) :
    machine.processor.timelines = none := by
  have made {configurations : List Configuration} {starting : String} {processor : Processor}
      (h : Processor.create configurations starting = .ok processor) :
      processor.timelines = none := by
    obtain ⟨_, -, -, -, -, -, rfl⟩ := Processor.exists_of_create h
    rfl
  cases h with
  | switchable created => exact made created
  | pair created =>
    obtain ⟨_, _, -, -, inner, -⟩ := PairProcessor.exists_of_ofPairs created
    exact made inner

/-- One atomic core in slot zero. -/
def soleCore (name : String) (model : ModelId) : Configuration where
  name := name
  cores := [.create 0 .x86 model .dummy]
  ascending := List.pairwise_singleton _ _
  nonempty := List.cons_ne_nil _ _

/-- Two atomic cores that take turns in one slot. -/
def duo : Machine :=
  .switchable
    { configurations :=
        Processor.markSwitchedOut "first" [soleCore "first" ⟨0⟩, soleCore "second" ⟨1⟩]
      active := "first"
      isa := .x86
      timelines := none }

theorem create_duo : Processor.create [soleCore "first" ⟨0⟩, soleCore "second" ⟨1⟩] "first" =
    .ok duo.processor := rfl

theorem created_duo : duo.Created :=
  .switchable create_duo

/-- Two atomic cores, in the slots zero and one. -/
def twinCores (name : String) (lower upper : ModelId) : Configuration where
  name := name
  cores := [.create 0 .x86 lower .dummy, .create 1 .x86 upper .dummy]
  ascending := List.pairwise_pair.mpr Nat.zero_lt_one
  nonempty := List.cons_ne_nil _ _

/-- Four atomic cores that take turns in two slots. The second two do not stand in the order of
their models. -/
def quad : Machine :=
  .switchable
    { configurations :=
        Processor.markSwitchedOut "first" [twinCores "first" ⟨0⟩ ⟨1⟩, twinCores "second" ⟨3⟩ ⟨2⟩]
      active := "first"
      isa := .x86
      timelines := none }

theorem create_quad :
    Processor.create [twinCores "first" ⟨0⟩ ⟨1⟩, twinCores "second" ⟨3⟩ ⟨2⟩] "first" =
      .ok quad.processor := rfl

end Machine

end Polycore
