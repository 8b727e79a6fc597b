import Polycore.Proofs.Kernel.Requests
import Polycore.Proofs.Processor.Requests
import Polycore.Run.Handler

/-!
# Sessions

A session is a machine together with the kernel it executes on, and a `Session.Request` is whatever
can be asked of the two while nobody swaps models past the machine. What a request comes to once the
kernel has booted is a `Session.Change`: a quantum, or a `Session.Shift`, which takes no time. A
session is reachable (`Session.Reachable`) if it has followed any requests from the boot of its
active models on.
-/

namespace Polycore

/-- A machine and the kernel on which it executes. -/
structure Session where
  machine : Machine
  kernel : Kernel

namespace Session

/-- The processor of the machine. -/
abbrev processor (session : Session) : Processor :=
  session.machine.processor

/-- What can be asked of a session. Swaps are left to the machine. -/
inductive Request where
  | move (move : Move)
  | incorporate
  | kernel (request : Kernel.Request) (indirect : request.isSwap = false)

/-- The session after a request, granted or refused. -/
def perform (session : Session) : Request → Session
  | .move move =>
    let (_, machine, kernel) := move.perform session.machine session.kernel
    { machine, kernel }
  | .incorporate =>
    let (_, machine, kernel) := session.machine.incorporate session.kernel
    { machine, kernel }
  | .kernel request _ => { session with kernel := session.kernel.perform request }

/-- The sessions of a machine that has joined its kernel, after any requests. -/
inductive Joined : Session → Prop where
  | incorporate {machine machine' : Machine} {kernel kernel' : Kernel}
    (created : machine.Created) (reachable : kernel.Reachable)
    (h : machine.incorporate kernel = (.ok (), machine', kernel')) :
    Joined { machine := machine', kernel := kernel' }
  | perform {session : Session} (request : Request) :
    Joined session → Joined (session.perform request)

/-- The sessions that booted on the active models of a machine that had joined its kernel, after any
requests. The boot is the kernel's first, since there is no other. -/
inductive Reachable : Session → Prop where
  | boot {session : Session} {kernel : Kernel} (joined : session.Joined)
    (h : session.kernel.boot session.processor.models = (.ok (), kernel)) :
    Reachable { session with kernel }
  | perform {session : Session} (request : Request) :
    Reachable session → Reachable (session.perform request)

/-! ## Changes -/

/-- What can become of a session at once. -/
inductive Shift (session next : Session) : Prop where
  /-- everybody goes on as before -/
  | still
    (processor : next.processor = session.processor ∨
      ∃ bindings, next.processor = session.processor.incorporated bindings)
    (work : Kernel.SameWork session.kernel next.kernel)
  /-- every slot was handed over to another configuration -/
  | switch (target : Configuration)
    (known : session.processor.configuration? target.name = some target)
    (other : target.name ≠ session.processor.active)
    (fits : target.models.length = session.processor.models.length)
    (exchangeable : session.kernel.Exchangeable (session.processor.handOver target))
    (processor : next.processor = session.processor.activate target.name)
    (kernel : next.kernel = session.kernel.exchange (session.processor.handOver target))

/-- What can become of a session that has booted. -/
inductive Change (session next : Session) : Prop where
  | shift (h : Shift session next)
  | quantum (ticks : Nat) (fpFraction : Float) (processor : next.processor = session.processor)
    (kernel : next.kernel = (session.kernel.runQuantum ticks fpFraction).2)

variable {session : Session}

theorem Shift.of_switchTo {next : Session} {target : String}
    {answer : Except ProcessorError Unit}
    (h : session.processor.switchTo target session.kernel = (answer, next.processor, next.kernel)) :
    Shift session next := by
  rcases session.processor.switchTo_cases target session.kernel with
    ⟨error, refused⟩ | ⟨found, known, other, fits, ⟨error, after, swapped, refused⟩ |
      ⟨after, swapped, granted⟩⟩
  · rw [refused, Prod.mk.injEq, Prod.mk.injEq] at h
    obtain ⟨-, hprocessor, hkernel⟩ := h
    exact .still (.inl hprocessor.symm) (hkernel ▸ .refl _)
  · rw [refused, Prod.mk.injEq, Prod.mk.injEq] at h
    obtain ⟨-, hprocessor, rfl⟩ := h
    exact .still (.inl hprocessor.symm) (Kernel.sameWork_of_swap_eq_error swapped)
  · rw [granted, Prod.mk.injEq, Prod.mk.injEq] at h
    obtain ⟨-, hprocessor, rfl⟩ := h
    obtain ⟨ok, hkernel⟩ := Kernel.exchange_of_swap_eq_ok swapped
    obtain rfl := (Processor.configuration?_eq_some known).2
    exact .switch found known other fits ok hprocessor.symm hkernel

/-- A move of the machine takes no time. -/
theorem shift_move (session : Session) (move : Move) :
    Shift session (session.perform (.move move)) := by
  have switched (name : String) : Shift session
      { machine := (session.machine.switchTo name session.kernel).2.1
        kernel := (session.machine.switchTo name session.kernel).2.2 } := by
    obtain ⟨target, h⟩ := session.machine.exists_switchTo name session.kernel
    exact .of_switchTo h
  cases move with
  | switchTo name => exact switched name
  | toggle => exact switched ""
  | armSwap reason => exact .still (.inl rfl) (.of_objects rfl rfl)

theorem sameWork_incorporate (session : Session) :
    Kernel.SameWork session.kernel (session.perform .incorporate).kernel := by
  refine session.machine.incorporate_keeps (P := Kernel.SameWork session.kernel) ?_ ?_ ?_ (.refl _)
  · exact fun same => same.trans (.of_objects rfl rfl)
  · exact fun model timeline same => same.trans (.assignTimeline _ model timeline)
  · exact fun memMode same => same.trans (.of_objects rfl rfl)

theorem shift_incorporate (session : Session) :
    Shift session (session.perform .incorporate) := by
  refine .still ?_ session.sameWork_incorporate
  rcases session.machine.incorporate_cases session.kernel with
    ⟨_, machine, kernel, h, same⟩ | ⟨bindings, machine, kernel, -, h, joined⟩
  · left
    simpa only [processor, perform, h] using same
  · right
    exact ⟨bindings, by simpa only [processor, perform, h] using joined⟩

/-- Every request to a session that has booted comes to a change. -/
theorem change_perform (booted : session.kernel.booted = true) (request : Request) :
    Change session (session.perform request) := by
  cases request with
  | move move => exact .shift (session.shift_move move)
  | incorporate => exact .shift session.shift_incorporate
  | kernel request indirect =>
    have quiet (h : request.isQuiet = true) :
        Change session (session.perform (.kernel request indirect)) :=
      .shift (.still (.inl rfl) (session.kernel.sameWork_perform h))
    cases request with
    | swap pairs => cases indirect
    | runQuantum ticks fpFraction => exact .quantum ticks fpFraction rfl rfl
    | boot active =>
      refine .shift (.still (.inl rfl) ?_)
      rcases session.kernel.boot_cases active with ⟨_, refused⟩ | ⟨unbooted, -, -⟩
      · simp only [perform, Kernel.perform, refused]
        exact .refl _
      · rw [booted] at unbooted
        cases unbooted
    | _ => exact quiet rfl

/-! ## What holds of every session -/

/-- No request changes more of the configurations than who is switched out. -/
theorem Shift.outline {next : Session} (shift : Shift session next) :
    next.processor.outline = session.processor.outline := by
  cases shift with
  | still processor _ =>
    rcases processor with same | ⟨bindings, joined⟩
    · rw [same]
    · rw [joined, Processor.outline_incorporated]
  | switch target _ _ _ _ processor _ => rw [processor, Processor.outline_activate]

theorem outline_perform (session : Session) (request : Request) :
    (session.perform request).processor.outline = session.processor.outline := by
  cases request with
  | move move => exact (session.shift_move move).outline
  | incorporate => exact session.shift_incorporate.outline
  | kernel request _ => rfl

theorem Shift.wf {next : Session} (shift : Shift session next) (h : session.processor.WF) :
    next.processor.WF := by
  cases shift with
  | still processor _ =>
    rcases processor with same | ⟨bindings, joined⟩
    · exact same ▸ h
    · exact joined ▸ h.incorporated bindings
  | switch target known other _ _ processor _ => exact processor ▸ h.activate known other

theorem wf_perform (h : session.processor.WF) (request : Request) :
    (session.perform request).processor.WF := by
  cases request with
  | move move => exact (session.shift_move move).wf h
  | incorporate => exact session.shift_incorporate.wf h
  | kernel request indirect => exact h

/-- A processor that has joined a board stays with it. -/
theorem isIncorporated_perform (h : session.processor.isIncorporated = true) (request : Request) :
    (session.perform request).processor.isIncorporated = true := by
  have kept {next : Session} (shift : Shift session next) :
      next.processor.isIncorporated = true := by
    cases shift with
    | still processor _ =>
      rcases processor with same | ⟨bindings, joined⟩
      · exact same ▸ h
      · exact joined ▸ rfl
    | switch _ _ _ _ _ processor _ => exact processor ▸ h
  cases request with
  | move move => exact kept (session.shift_move move)
  | incorporate => exact kept session.shift_incorporate
  | kernel request indirect => exact h

theorem reachable_incorporate {allowed : Kernel.Request → Prop} {machine : Machine}
    {kernel : Kernel} (host : allowed .enableHostAcceleration)
    (assign : ∀ model timeline, allowed (.assignTimeline model timeline))
    (mode : ∀ memMode, allowed (.setMemMode memMode)) (h : Kernel.ReachableBy allowed kernel) :
    Kernel.ReachableBy allowed (machine.incorporate kernel).2.2 := by
  refine machine.incorporate_keeps (P := Kernel.ReachableBy allowed) ?_ ?_ ?_ h
  · exact .perform .enableHostAcceleration host
  · exact fun model timeline => .perform (.assignTimeline model timeline) (assign model timeline)
  · exact fun memMode => .perform (.setMemMode memMode) (mode memMode)

/-- A move asks the kernel for nothing, for a swap or for the next refusal. -/
theorem kernel_move (move : Move) (machine : Machine) (kernel : Kernel) :
    (move.perform machine kernel).2.2 = kernel ∨
      (∃ pairs, (move.perform machine kernel).2.2 = kernel.perform (.swap pairs)) ∨
      ∃ reason, (move.perform machine kernel).2.2 = kernel.perform (.failNextSwap reason) := by
  cases move with
  | switchTo name => exact (machine.switchTo_board name kernel).imp_right .inl
  | toggle => exact (machine.switchTo_board "" kernel).imp_right .inl
  | armSwap reason => exact .inr (.inr ⟨reason, rfl⟩)

/-- What a swap and an armed refusal keep, a move keeps of the kernel. -/
theorem kernel_move_keeps {P : Kernel → Prop}
    (swap : ∀ pairs, P session.kernel → P (session.kernel.perform (.swap pairs)))
    (arm : ∀ reason, P session.kernel → P (session.kernel.perform (.failNextSwap reason)))
    (h : P session.kernel) (move : Move) : P (session.perform (.move move)).kernel := by
  change P (move.perform session.machine session.kernel).2.2
  rcases kernel_move move session.machine session.kernel with
    same | ⟨pairs, swapped⟩ | ⟨reason, armed⟩
  · rwa [same]
  · rw [swapped]
    exact swap pairs h
  · rw [armed]
    exact arm reason h

/-- What every request to a kernel keeps, every request to a session keeps of its kernel. -/
theorem kernel_perform_keeps {P : Kernel → Prop}
    (kept : ∀ {kernel : Kernel} request, P kernel → P (kernel.perform request))
    (h : P session.kernel) (request : Request) : P (session.perform request).kernel := by
  cases request with
  | move move =>
    exact kernel_move_keeps (fun pairs => kept (.swap pairs))
      (fun reason => kept (.failNextSwap reason)) h move
  | incorporate =>
    refine session.machine.incorporate_keeps ?_ ?_ ?_ h
    · exact kept .enableHostAcceleration
    · exact fun model timeline => kept (.assignTimeline model timeline)
    · exact fun memMode => kept (.setMemMode memMode)
  | kernel request _ => exact kept request h

theorem reachable_perform (h : session.kernel.Reachable) (request : Request) :
    (session.perform request).kernel.Reachable :=
  kernel_perform_keeps (fun request => .perform request trivial) h request

theorem Joined.wf (h : session.Joined) : session.processor.WF := by
  induction h with
  | @incorporate machine _ kernel _ created _ h =>
    let joining : Session := { machine, kernel }
    have joined : (joining.perform .incorporate).processor.WF := wf_perform created.wf .incorporate
    simpa only [joining, Session.perform, h] using joined
  | perform request _ ih => exact wf_perform ih request

theorem Joined.kernel (h : session.Joined) : session.kernel.Reachable := by
  induction h with
  | @incorporate machine _ kernel _ _ reachable h =>
    let joining : Session := { machine, kernel }
    have joined : (joining.perform .incorporate).kernel.Reachable :=
      reachable_perform reachable .incorporate
    simpa only [joining, Session.perform, h] using joined
  | perform request _ ih => exact reachable_perform ih request

theorem Reachable.kernel (h : session.Reachable) : session.kernel.Reachable := by
  induction h with
  | @boot session _ joined h =>
    have booted := Kernel.ReachableBy.perform (.boot session.processor.models) trivial joined.kernel
    simpa only [Kernel.perform, h] using booted
  | perform request _ ih => exact reachable_perform ih request

/-! ## A session of two cores -/

/-- The machine of two cores on its kernel, booted. -/
def duo : Session :=
  let joined := Session.perform { machine := .duo, kernel := .duo } .incorporate
  joined.perform (.kernel (.boot joined.processor.models) rfl)

theorem reachable_duo : duo.Reachable :=
  .boot (.incorporate Machine.created_duo Kernel.fresh_duo.reachable rfl) rfl

/-- The machine of four cores on its kernel, booted. -/
def quad : Session :=
  let joined := Session.perform { machine := .quad, kernel := .quad } .incorporate
  joined.perform (.kernel (.boot joined.processor.models) rfl)

theorem reachable_quad : quad.Reachable :=
  .boot (.incorporate (.switchable Machine.create_quad) Kernel.fresh_quad.reachable rfl) rfl

end Session

end Polycore
