import Polycore.Board.Recorder
import Polycore.Proofs.Session.Granted

/-!
# Rehearsals

A rehearsal plays the part of a session on a board that executes nothing, but keeps what it was
asked for. A machine cannot tell the two apart: from the boot on every move gets the same answer on
both boards and leaves the same processor, and the recorder holds a swap for each that the kernel
counted (`Rehearsal.faithful`).
-/

namespace Polycore

/-! ## What boards remember about swaps -/

namespace Recorder

variable {board : Recorder} {kernel : Kernel}

/-- What a recorder remembers about swaps: the refusal that is armed, and how many there were. -/
def swapRecord (board : Recorder) : Option String × Nat :=
  (board.armedSwap, board.swaps.length)

/-- A kernel that can exchange some models answers like a recorder that remembers the same. -/
theorem exists_swap (same : board.swapRecord = kernel.swapRecord) (booted : kernel.booted = true)
    {pairs : List (ModelId × ModelId)} (ok : kernel.Exchangeable pairs) :
    ∃ answer kernel' board', kernel.swap pairs = (answer, kernel') ∧
      board.swap pairs = (answer, board') ∧ board'.swapRecord = kernel'.swapRecord := by
  obtain ⟨armedSwap, count⟩ := Prod.mk.inj same
  cases armed : kernel.armedSwap with
  | some reason =>
    rw [armed] at armedSwap
    refine ⟨.error (.swapFailed reason), { kernel with armedSwap := none },
      { board with armedSwap := none }, ?_, ?_, ?_⟩
    · rw [Kernel.swap, armed]
    · rw [swap, armedSwap]
    · exact Prod.ext rfl count
  | none =>
    rw [armed] at armedSwap
    refine ⟨.ok (), kernel.exchange pairs, { board with swaps := board.swaps ++ [pairs] },
      Kernel.swap_granted armed booted ok, ?_, ?_⟩
    · rw [swap, armedSwap]
    · refine Prod.ext ?_ ?_
      · exact armedSwap.trans (armed.symm.trans (Kernel.armedSwap_exchange pairs kernel).symm)
      · change (board.swaps ++ [pairs]).length = kernel.swaps + 1
        rw [List.length_append, count]
        rfl

theorem assignAll_granted (bindings : List (ModelId × Timeline))
    (unarmed : board.armedTimeline = none) :
    ∃ board', Processor.assignAll bindings board = (.ok (), board') := by
  induction bindings generalizing board with
  | nil => exact ⟨board, rfl⟩
  | cons binding rest ih =>
    let next : Recorder :=
      { board with timelines := board.timelines ++ [(binding.1, binding.2)] }
    have granted : Board.assignTimeline binding.1 binding.2 board = (.ok (), next) := by
      change assignTimeline binding.1 binding.2 board = _
      unfold assignTimeline
      split
      · next armed => cases unarmed.symm.trans armed
      · rfl
    obtain ⟨board', assigned⟩ := @ih next unarmed
    refine ⟨board', ?_⟩
    rw [Processor.assignAll, granted]
    exact assigned

theorem bindAccelerated_granted (bindings : List (ModelId × Timeline))
    (unarmed : board.armedTimeline = none) :
    ∃ board', Processor.bindAccelerated bindings board = (.ok (), board') := by
  unfold Processor.bindAccelerated
  split
  · exact ⟨board, rfl⟩
  · exact @assignAll_granted { board with hostRequests := board.hostRequests + 1 } bindings unarmed

/-- An incorporation asks for no swap. -/
theorem swaps_incorporate (machine : Machine) (board : Recorder) :
    (machine.incorporate board).2.2.armedSwap = board.armedSwap ∧
      (machine.incorporate board).2.2.swaps = board.swaps := by
  refine machine.incorporate_keeps
    (P := fun next : Recorder => next.armedSwap = board.armedSwap ∧ next.swaps = board.swaps)
    id ?_ (fun _ => id) ⟨rfl, rfl⟩
  intro next model timeline same
  change (next.assignTimeline model timeline).2.armedSwap = board.armedSwap ∧
    (next.assignTimeline model timeline).2.swaps = board.swaps
  unfold assignTimeline
  split
  · exact same
  · exact same

theorem swapRecord_incorporate (machine : Machine) (board : Recorder) :
    (machine.incorporate board).2.2.swapRecord = board.swapRecord := by
  obtain ⟨armed, swaps⟩ := swaps_incorporate machine board
  exact Prod.ext armed (congrArg List.length swaps)

end Recorder

/-! ## Machines on different boards -/

namespace Machine

/-- Machines that differ at most in the memory mode that a pair asked of its board. -/
inductive Alike : Machine → Machine → Prop where
  | switchable (processor : Processor) : Alike (.switchable processor) (.switchable processor)
  | pair (processor : PairProcessor) (memMode : MemMode) :
    Alike (.pair processor) (.pair { processor with memMode })

namespace Alike

variable {first second : Machine}

theorem refl (machine : Machine) : machine.Alike machine := by
  cases machine with
  | switchable processor => exact .switchable processor
  | pair processor => exact .pair processor processor.memMode

theorem processor (h : first.Alike second) : second.processor = first.processor := by
  cases h with
  | switchable => rfl
  | pair => rfl

theorem target (h : first.Alike second) (name : String) :
    second.target name = first.target name := by
  cases h with
  | switchable => rfl
  | pair => rfl

theorem switched (h : first.Alike second) (name : String) :
    (first.switched name).Alike (second.switched name) := by
  cases h with
  | switchable processor => exact .switchable _
  | pair processor memMode => exact .pair processor.toggled memMode

theorem joined {σ τ : Type} [Board σ] [Board τ] (machine : Machine)
    (bindings : List (ModelId × Timeline)) (board : σ) (other : τ) :
    (machine.joined bindings board).1.Alike (machine.joined bindings other).1 := by
  cases machine with
  | switchable processor => exact .switchable _
  | pair processor => exact .pair _ _

end Alike

end Machine

/-! ## Rehearsals -/

/-- The machine makes a move on a board that executes nothing. -/
def Move.rehearse (machine : Machine) (board : Recorder) :
    Move → Processor.Outcome Machine Recorder
  | switchTo name => machine.switchTo name board
  | toggle => machine.toggle board
  | armSwap reason => (.ok (), machine, board.failNextSwap reason)

/-- A machine on a board that keeps what it is asked for. -/
structure Rehearsal where
  machine : Machine
  board : Recorder

namespace Rehearsal

/-- The rehearsal of a request to a session. Of what is asked of the kernel itself only the arming
of a refusal means anything to the board. -/
def perform (rehearsal : Rehearsal) : Session.Request → Rehearsal
  | .move move =>
    let (_, machine, board) := move.rehearse rehearsal.machine rehearsal.board
    { machine, board }
  | .incorporate =>
    let (_, machine, board) := rehearsal.machine.incorporate rehearsal.board
    { machine, board }
  | .kernel (.failNextSwap reason) _ =>
    { rehearsal with board := rehearsal.board.failNextSwap reason }
  | .kernel _ _ => rehearsal

variable {session : Session} {rehearsal : Rehearsal}

theorem perform_kernel (rehearsal : Rehearsal) {request : Kernel.Request}
    (indirect : request.isSwap = false) (unarming : request.isArming = false) :
    rehearsal.perform (.kernel request indirect) = rehearsal := by
  cases request with
  | failNextSwap => cases unarming
  | _ => rfl

/-- A machine and its copy that have both asked to join their boards stand alike, and the boards
remember the same about swaps. -/
structure Matches (rehearsal : Rehearsal) (session : Session) : Prop where
  alike : session.machine.Alike rehearsal.machine
  record : rehearsal.board.swapRecord = session.kernel.swapRecord
  /-- the machine has joined its board, or could join none -/
  joined : ∃ error, session.processor.joining = .error error

/-- A rehearsal matches a session whose machine and kernel agree. -/
structure Follows (rehearsal : Rehearsal) (session : Session) : Prop where
  coupled : session.Coupled
  registered : session.Registered
  stands : rehearsal.Matches session

namespace Follows

/-- A switch is refused on sight on both boards, or asks both for the same swap. -/
theorem switchTo (h : rehearsal.Follows session) (name : String) :
    (session.machine.switchTo name session.kernel).1 =
        (rehearsal.machine.switchTo name rehearsal.board).1 ∧
      Matches
        { machine := (rehearsal.machine.switchTo name rehearsal.board).2.1
          board := (rehearsal.machine.switchTo name rehearsal.board).2.2 }
        { machine := (session.machine.switchTo name session.kernel).2.1
          kernel := (session.machine.switchTo name session.kernel).2.2 } := by
  have processor : rehearsal.machine.processor = session.processor := h.stands.alike.processor
  have target := h.stands.alike.target name
  have seen : rehearsal.machine.processor.switchError? (rehearsal.machine.target name) =
      session.processor.switchError? (session.machine.target name) := by
    rw [processor, target]
  cases found : session.processor.switchError? (session.machine.target name) with
  | some error =>
    rw [Machine.switchTo_of_switchError? found, Machine.switchTo_of_switchError? (seen.trans found)]
    exact ⟨rfl, h.stands⟩
  | none =>
    obtain ⟨incorporated, next, known, other, -⟩ :=
      Processor.exists_of_switchError?_eq_none found
    -- the kernel checks what the recorder does not, and the coupling says that it finds nothing
    have ok : session.kernel.Exchangeable (session.processor.handOver next) :=
      h.coupled.exchangeable known other
        (h.registered.models (Processor.configuration?_eq_some known).1)
    obtain ⟨answer, kernel, board, swapped, recorded, record⟩ :=
      Recorder.exists_swap h.stands.record h.coupled.booted ok
    have copied := known
    rw [← processor, ← target] at copied
    rw [← processor] at recorded
    rw [Machine.switchTo_of_swap found known swapped,
      Machine.switchTo_of_swap (seen.trans found) copied recorded]
    refine ⟨rfl, ?_⟩
    cases answer with
    | error error => exact ⟨h.stands.alike, record, h.stands.joined⟩
    | ok =>
      refine ⟨h.stands.alike.switched name, record, _, Processor.joining_of_isIncorporated ?_⟩
      change (session.machine.switched name).processor.isIncorporated = true
      rw [Machine.processor_switched]
      exact incorporated

/-- Every move gets the same answer on both boards. -/
theorem move (h : rehearsal.Follows session) (move : Move) :
    (move.perform session.machine session.kernel).1 =
        (move.rehearse rehearsal.machine rehearsal.board).1 ∧
      (rehearsal.perform (.move move)).Matches (session.perform (.move move)) := by
  cases move with
  | switchTo name => exact h.switchTo name
  | toggle => exact h.switchTo ""
  | armSwap reason =>
    have count := congrArg Prod.snd h.stands.record
    exact ⟨rfl, h.stands.alike, Prod.ext rfl count, h.stands.joined⟩

/-- A machine that has asked to join its board before is refused on both, without a trace. -/
theorem incorporate (h : rehearsal.Follows session) :
    (rehearsal.perform .incorporate).Matches (session.perform .incorporate) := by
  obtain ⟨error, refused⟩ := h.stands.joined
  have copied := refused
  rw [Session.processor, ← h.stands.alike.processor] at copied
  rw [perform, Session.perform, Machine.incorporate_of_joining_error refused,
    Machine.incorporate_of_joining_error copied]
  exact h.stands

theorem perform (h : rehearsal.Follows session) (request : Session.Request) :
    (rehearsal.perform request).Follows (session.perform request) := by
  refine ⟨h.coupled.perform request, h.registered.perform request, ?_⟩
  cases request with
  | move move => exact (h.move move).2
  | incorporate => exact h.incorporate
  | kernel request indirect =>
    cases arming : request.isArming with
    | false =>
      rw [rehearsal.perform_kernel indirect arming]
      refine ⟨h.stands.alike, h.stands.record.trans ?_, h.stands.joined⟩
      exact (session.kernel.swapRecord_perform request indirect arming).symm
    | true =>
      cases request with
      | failNextSwap reason => exact (h.move (.armSwap reason)).2
      | _ => cases arming

theorem foldl_perform (h : rehearsal.Follows session) (requests : List Session.Request) :
    (requests.foldl Rehearsal.perform rehearsal).Follows
      (requests.foldl Session.perform session) := by
  induction requests generalizing rehearsal session with
  | nil => exact h
  | cons request rest ih => exact ih (h.perform request)

end Follows

/-! ## From the beginning -/

variable {machine : Machine} {kernel : Kernel} {board : Recorder}

/-- A machine whose models are registered joins a kernel on which no isolated timeline is taken
exactly if it joins a recorder. -/
theorem matches_incorporate (unarmed : board.armedTimeline = none)
    (record : board.swapRecord = kernel.swapRecord)
    (registered : ∀ core ∈ machine.processor.allCores, (kernel.object? core.model).isSome = true)
    (free : ∀ model timeline, kernel.timeline? model = some timeline →
      timeline.isShared = true) :
    (machine.incorporate kernel).1 = (machine.incorporate board).1 ∧
      (Rehearsal.perform { machine, board } .incorporate).Matches
        (Session.perform { machine, kernel } .incorporate) := by
  have remembered : (machine.incorporate board).2.2.swapRecord =
      (machine.incorporate kernel).2.2.swapRecord := by
    rw [board.swapRecord_incorporate, record, Session.swapRecord_incorporate]
  cases joining : machine.processor.joining with
  | error error =>
    have refused := Machine.incorporate_of_joining_error joining kernel
    have copied := Machine.incorporate_of_joining_error joining board
    rw [perform, Session.perform, refused, copied]
    exact ⟨rfl, .refl machine, record, error, joining⟩
  | ok bindings =>
    obtain ⟨kernel', bound⟩ := Processor.bindAccelerated_granted
      (Processor.of_joining_eq_ok joining).2 registered free
    obtain ⟨board', copied⟩ := Recorder.bindAccelerated_granted bindings unarmed
    have granted := Machine.incorporate_of_granted joining bound
    have copied := Machine.incorporate_of_granted joining copied
    refine ⟨by rw [granted, copied], ?_, remembered, .alreadyIncorporated, ?_⟩
    · change (machine.incorporate kernel).2.1.Alike (machine.incorporate board).2.1
      rw [granted, copied]
      exact .joined machine bindings kernel' board'
    · have ok : (machine.incorporate kernel).1 = .ok () := congrArg Prod.fst granted
      exact Processor.joining_of_isIncorporated
        (Machine.isIncorporated_of_incorporate (Prod.ext ok rfl))

/-- A machine cannot tell a kernel on which its active models have booted from a board that executes
nothing: whatever is asked of the two, it stands alike on both, as many swaps were granted on both,
and every move is answered alike. -/
theorem faithful (created : machine.Created) (reachable : kernel.Reachable)
    (unbooted : kernel.booted = false) (unarmed : kernel.armedSwap = none)
    (registered : ∀ core ∈ machine.processor.allCores, (kernel.object? core.model).isSome = true)
    (free : ∀ model timeline, kernel.timeline? model = some timeline →
      timeline.isShared = true) (ruby : Bool) :
    let joined := Session.perform { machine, kernel } .incorporate
    let copied := Rehearsal.perform { machine, board := { ruby } } .incorporate
    (machine.incorporate kernel).1 = (machine.incorporate ({ ruby } : Recorder)).1 ∧
    ((machine.processor.allCores.filter (·.accelerated)).length < Word.bound32 →
      (machine.incorporate kernel).1 = .ok ()) ∧
    (joined.kernel.boot joined.processor.models).1 = .ok () ∧
    ∀ requests : List Session.Request,
      let booted := joined.perform (.kernel (.boot joined.processor.models) rfl)
      let session := requests.foldl Session.perform booted
      let rehearsal := requests.foldl perform copied
      session.processor = rehearsal.machine.processor ∧
      session.kernel.swaps = rehearsal.board.swaps.length ∧
      ∀ move : Move, (move.perform session.machine session.kernel).1 =
        (move.rehearse rehearsal.machine rehearsal.board).1 := by
  intro joined copied
  have fresh : ({ ruby } : Recorder).swapRecord = kernel.swapRecord :=
    Prod.ext unarmed.symm (reachable.swaps_eq_zero unbooted).symm
  obtain ⟨same, stands⟩ := matches_incorporate rfl fresh registered free
  have wf : joined.processor.WF := Session.wf_perform created.wf .incorporate
  have known : Session.Registered { machine, kernel } := registered
  obtain ⟨kernel', booted, coupled, known, record⟩ :=
    Session.coupled_boot wf (known.perform .incorporate)
      (Session.reachable_perform reachable .incorporate)
      ((Session.sameWork_incorporate { machine, kernel }).booted.trans unbooted)
  have follows : copied.Follows (joined.perform (.kernel (.boot joined.processor.models) rfl)) := by
    change copied.Follows { joined with kernel := (joined.kernel.boot joined.processor.models).2 }
    rw [booted]
    exact ⟨coupled, known, stands.alike, stands.record.trans record.symm, stands.joined⟩
  refine ⟨same, fun fits => ?_, congrArg Prod.fst booted, fun requests => ?_⟩
  · obtain ⟨_, _, granted⟩ := machine.incorporate_granted created.alone fits registered free
    rw [granted]
  · have kept := follows.foldl_perform requests
    have count := congrArg Prod.snd kept.stands.record
    exact ⟨kept.stands.alike.processor.symm, count.symm, fun move => (kept.move move).1⟩

theorem faithful_duo :
    let joined := Session.perform { machine := .duo, kernel := .duo } .incorporate
    let copied := Rehearsal.perform { machine := .duo, board := { ruby := true } } .incorporate
    let booted := joined.perform (.kernel (.boot joined.processor.models) rfl)
    let requests : List Session.Request :=
      [.move (.armSwap "stuck"), .move (.switchTo "second"), .kernel (.runQuantum 10 0.5) rfl,
        .move (.switchTo "second"), .move (.armSwap "again"), .move (.switchTo "second")]
    let session := requests.foldl Session.perform booted
    let rehearsal := requests.foldl perform copied
    Machine.duo.Created ∧ Kernel.duo.Reachable ∧ Kernel.duo.booted = false ∧
      Kernel.duo.armedSwap = none ∧ (Kernel.duo.object? ⟨1⟩).isSome = true ∧
      Kernel.duo.timeline? ⟨1⟩ = some .shared ∧
      (Machine.duo.incorporate Kernel.duo).1 = .ok () ∧ session.processor.active = "second" ∧
      session.kernel.swaps = rehearsal.board.swaps.length ∧ rehearsal.board.swaps.length = 1 ∧
      ((Move.switchTo "first").perform session.machine session.kernel).1 =
        .error (.board (.swapFailed "again")) := by
  intro joined copied booted requests session rehearsal
  have registered : ∀ core ∈ Machine.duo.processor.allCores,
      (Kernel.duo.object? core.model).isSome = true := by decide
  obtain ⟨-, granted, -, kept⟩ := faithful Machine.created_duo Kernel.fresh_duo.reachable rfl rfl
    registered (fun _ _ => Kernel.isShared_timeline?_duo) true
  obtain ⟨processor, swaps, moves⟩ := kept requests
  refine ⟨Machine.created_duo, Kernel.fresh_duo.reachable, rfl, rfl, rfl, rfl, granted (by decide),
    ?_, ?_, rfl, ?_⟩
  · exact (congrArg Processor.active processor).trans rfl
  · rw [swaps]
  · exact (moves (.switchTo "first")).trans rfl

end Rehearsal

end Polycore
