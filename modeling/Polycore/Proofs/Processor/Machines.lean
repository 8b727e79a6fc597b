import Polycore.Proofs.Processor.Pairs

/-!
# Requests to a machine

A machine goes by its processor. A switch is refused on sight or goes by what the board answers to
one swap (`Machine.switchTo_of_swap`), and an incorporation is refused on sight or goes by what the
board answers to the bindings (`Machine.incorporate_of_granted`, `Machine.incorporate_of_refused`).
-/

namespace Polycore.Machine

variable {machine : Machine} {σ : Type} [Board σ]

/-! ## Switching -/

/-- The configuration to which a machine goes that is told a name. -/
def target (machine : Machine) (name : String) : String :=
  match machine with
  | switchable _ => name
  | pair processor => processor.otherSide

/-- The machine once it has gone there. -/
def switched (machine : Machine) (name : String) : Machine :=
  match machine with
  | switchable processor => switchable (processor.activate name)
  | pair processor => pair processor.toggled

theorem processor_switched (machine : Machine) (name : String) :
    (machine.switched name).processor = machine.processor.activate (machine.target name) := by
  cases machine with
  | switchable => rfl
  | pair => rfl

/-- A machine goes by the answer that its processor gets. -/
theorem switchTo_of_processor {name : String} {board board' : σ}
    {answer : Except ProcessorError Unit} {inner : Processor}
    (h : machine.processor.switchTo (machine.target name) board = (answer, inner, board')) :
    machine.switchTo name board =
      (answer, if answer.isOk then machine.switched name else machine, board') := by
  cases machine with
  | switchable processor =>
    simp only [Machine.processor, target] at h
    rcases processor.switchTo_cases name board with
      ⟨_, refused⟩ | ⟨_, -, -, -, ⟨_, _, -, refused⟩ | ⟨_, -, granted⟩⟩
    · cases h.symm.trans refused
      rw [switchTo, refused]
      rfl
    · cases h.symm.trans refused
      rw [switchTo, refused]
      rfl
    · cases h.symm.trans granted
      rw [switchTo, granted]
      rfl
  | pair pair =>
    simp only [Machine.processor, target] at h
    rcases pair.toggle_cases board with ⟨_, _, refused, toggled⟩ | ⟨_, granted, toggled⟩
    · cases h.symm.trans refused
      rw [switchTo, toggled]
      rfl
    · cases h.symm.trans granted
      rw [switchTo, toggled]
      rfl

variable {name : String}

theorem switchTo_of_switchError? {error : ProcessorError}
    (h : machine.processor.switchError? (machine.target name) = some error) (board : σ) :
    machine.switchTo name board = (.error error, machine, board) :=
  switchTo_of_processor (Processor.switchTo_of_switchError? h board)

theorem switchTo_of_swap {next : Configuration} {board board' : σ} {answer : Except BoardError Unit}
    (free : machine.processor.switchError? (machine.target name) = none)
    (known : machine.processor.configuration? (machine.target name) = some next)
    (swapped : Board.swap (machine.processor.handOver next) board = (answer, board')) :
    machine.switchTo name board =
      (answer.mapError .board, if answer.isOk then machine.switched name else machine, board') := by
  rw [switchTo_of_processor (Processor.switchTo_of_swap free known swapped)]
  cases answer with
  | error error => rfl
  | ok => rfl

/-- A change of the board that its answers to swaps do not show goes along with a switch. -/
theorem switchTo_along {τ : Type} [Board τ] {f : σ → τ}
    (swap : ∀ pairs board, Board.swap pairs (f board) = Prod.map id f (Board.swap pairs board))
    (machine : Machine) (name : String) (board : σ) :
    machine.switchTo name (f board) =
      Prod.map id (Prod.map id f) (machine.switchTo name board) := by
  have along := machine.processor.switchTo_along swap (machine.target name) board
  rcases outcome : machine.processor.switchTo (machine.target name) board with
    ⟨answer, inner, board'⟩
  rw [outcome] at along
  rw [switchTo_of_processor outcome, switchTo_of_processor along]
  rfl

/-- A switch leaves every model on its timeline. -/
theorem timelines_switchTo (machine : Machine) (name : String) (board : σ) :
    (machine.switchTo name board).2.1.processor.timelines = machine.processor.timelines := by
  cases found : machine.processor.switchError? (machine.target name) with
  | some error => rw [switchTo_of_switchError? found]
  | none =>
    obtain ⟨-, next, known, -, -⟩ := Processor.exists_of_switchError?_eq_none found
    rcases swapped : Board.swap (machine.processor.handOver next) board with ⟨_ | _, board'⟩
    · rw [switchTo_of_swap found known swapped]
      rfl
    · rw [switchTo_of_swap found known swapped]
      change (machine.switched name).processor.timelines = _
      rw [processor_switched]
      rfl

/-! ## Joining a board -/

variable {bindings : List (ModelId × Timeline)} {board board' : σ}

/-- The machine as part of a board that granted its bindings, and the board in the memory mode that
a pair asks for. -/
def joined (machine : Machine) (bindings : List (ModelId × Timeline)) (board : σ) : Machine × σ :=
  match machine with
  | switchable processor => (switchable (processor.incorporated bindings), board)
  | pair processor =>
    (pair
      { processor with
        processor := processor.processor.incorporated bindings
        memMode := processor.requestedMode board },
      Board.setMemMode (processor.requestedMode board) board)

theorem processor_joined (machine : Machine) (bindings : List (ModelId × Timeline)) (board : σ) :
    (machine.joined bindings board).1.processor = machine.processor.incorporated bindings := by
  cases machine with
  | switchable => rfl
  | pair => rfl

theorem incorporate_of_joining_error {error : ProcessorError}
    (h : machine.processor.joining = .error error) (board : σ) :
    machine.incorporate board = (.error error, machine, board) := by
  have refused := Processor.incorporate_of_joining_error h board
  cases machine with
  | switchable processor =>
    simp only [Machine.processor] at refused
    rw [incorporate, refused]
  | pair pair =>
    simp only [Machine.processor] at refused
    rw [incorporate, PairProcessor.incorporate, refused]

theorem incorporate_of_refused (free : machine.processor.joining = .ok bindings)
    {error : BoardError}
    (bound : Processor.bindAccelerated bindings board = (.error error, board')) :
    machine.incorporate board = (.error (.board error), machine, board') := by
  have refused := Processor.incorporate_of_bindAccelerated free bound
  cases machine with
  | switchable processor =>
    simp only [Machine.processor] at refused
    rw [incorporate, refused]
    rfl
  | pair pair =>
    simp only [Machine.processor] at refused
    rw [incorporate, PairProcessor.incorporate, refused]
    rfl

theorem incorporate_of_granted (free : machine.processor.joining = .ok bindings)
    (bound : Processor.bindAccelerated bindings board = (.ok (), board')) :
    machine.incorporate board = (.ok (), machine.joined bindings board') := by
  have granted := Processor.incorporate_of_bindAccelerated free bound
  cases machine with
  | switchable processor =>
    simp only [Machine.processor] at granted
    rw [incorporate, granted]
    rfl
  | pair pair =>
    simp only [Machine.processor] at granted
    rw [incorporate, PairProcessor.incorporate, granted]
    rfl

/-- An incorporation that is refused leaves the machine as it was. Either the board was asked for
nothing, or it refused a binding. -/
theorem of_incorporate_eq_error {machine' : Machine} {error : ProcessorError}
    (h : machine.incorporate board = (.error error, machine', board')) :
    machine' = machine ∧ (board' = board ∧ machine.processor.joining = .error error ∨
      ∃ bindings refusal, machine.processor.joining = .ok bindings ∧ error = .board refusal ∧
        Processor.bindAccelerated bindings board = (.error refusal, board')) := by
  cases free : machine.processor.joining with
  | error first =>
    cases h.symm.trans (incorporate_of_joining_error free board)
    exact ⟨rfl, .inl ⟨rfl, rfl⟩⟩
  | ok bindings =>
    rcases bound : Processor.bindAccelerated bindings board with ⟨refusal | _, after⟩
    · cases h.symm.trans (incorporate_of_refused free bound)
      exact ⟨rfl, .inr ⟨bindings, refusal, rfl, rfl, bound⟩⟩
    · cases h.symm.trans (incorporate_of_granted free bound)

/-- Boards that answer the bindings alike, and are left alike by them, answer the machine alike. -/
theorem incorporate_congr (free : machine.processor.joining = .ok bindings)
    (same : Processor.bindAccelerated bindings board = Processor.bindAccelerated bindings board') :
    machine.incorporate board = machine.incorporate board' := by
  rcases bound : Processor.bindAccelerated bindings board' with ⟨_ | _, after⟩
  · rw [incorporate_of_refused free (same.trans bound), incorporate_of_refused free bound]
  · rw [incorporate_of_granted free (same.trans bound), incorporate_of_granted free bound]

end Polycore.Machine
