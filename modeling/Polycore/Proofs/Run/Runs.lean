import Polycore.Proofs.Run.Schedules
import Polycore.Proofs.Run.Turns
import Polycore.Proofs.Session.Coupling

/-!
# Runs

A run asks its session for one thing after the other and for nothing else, so it keeps whatever
every request keeps (`Simulator.run_keeps`). A run with a report joined the machine to a kernel that
had not booted, booted it, and took its turns from there (`Simulator.Started`). Simulators are
reachable (`Simulator.Reachable`) by any use that does not meddle with the machine.
-/

namespace Polycore

theorem RunConfig.pace_eq_ok {config : RunConfig} {pace : Pace} (h : config.pace = .ok pace) :
    pace.quantum = config.quantum ∧ pace.maxTicks = config.maxTicks := by
  unfold RunConfig.pace at h
  split at h
  · cases h
  · split at h
    · cases h
    · cases h
      exact ⟨rfl, rfl⟩

/-- The simulator that a turn leaves behind. -/
def Turn.after : Turn → Simulator
  | ended _ sim => sim
  | goesOn _ sim => sim

namespace Simulator

variable {sim started final : Simulator} {pace : Pace}

/-! ## What the turns of a run keep -/

section Keeps

variable {Q : Simulator → Prop}

/-- What holds of the simulator that a step leaves holds once the step has been taken apart. -/
theorem keeps_of_eq {β : Type} {outcome : β × Simulator} {answer : β} (h : Q outcome.2)
    (eq : outcome = (answer, sim)) : Q sim := by
  rw [eq] at h
  exact h

variable (fired : ∀ {sim : Simulator} trigger, Q sim → Q (sim.fire trigger).2)

include fired

theorem deliver_keeps (retired : Nat) (pending : List GuestEvent) (h : Q sim) :
    Q (deliver retired pending sim).2 := by
  induction pending generalizing sim with
  | nil => exact h
  | cons event rest ih =>
    have first := fired event.trigger h
    unfold deliver
    split
    · exact h
    · split
      · next eq => exact keeps_of_eq first eq
      · next eq => exact keeps_of_eq first eq
      · next eq => exact ih (keeps_of_eq first eq)

theorem complete_keeps (h : Q sim) : Q sim.complete.2 := by
  have last := fired .exit h
  unfold complete
  split
  all_goals
    next eq => exact keeps_of_eq last eq

theorem cutOff_keeps (h : Q sim) : Q sim.cutOff.2 := by
  have last := fired .maxTick h
  unfold cutOff
  split
  all_goals
    next eq => exact keeps_of_eq last eq

/-- What every firing keeps holds after a turn, if it holds where the firings begin: at the cut-off,
or at the end of the quantum. -/
theorem turn_keeps_of_firings (pace : Pace) (pending : List GuestEvent)
    (late : pace.maxTicks ≤ sim.kernel.tick → Q sim)
    (ran : sim.kernel.tick < pace.maxTicks → Q (sim.runQuantum pace.quantum)) :
    Q (sim.turn pace pending).after := by
  unfold turn
  split
  · next cut => exact cutOff_keeps fired (late cut)
  · next early =>
    have delivered := deliver_keeps fired (sim.runQuantum pace.quantum).kernel.totalInstructions
      pending (ran (Nat.lt_of_not_le early))
    dsimp only
    split
    · next eq => exact keeps_of_eq delivered eq
    · next eq => exact keeps_of_eq delivered eq
    · next eq =>
      have delivered := keeps_of_eq delivered eq
      split
      · exact complete_keeps fired delivered
      · exact delivered

variable (ran : ∀ {sim : Simulator} ticks, Q sim → Q (sim.runQuantum ticks))

include ran

theorem turn_keeps (pace : Pace) (pending : List GuestEvent) (h : Q sim) :
    Q (sim.turn pace pending).after :=
  turn_keeps_of_firings fired pace pending (fun _ => h) fun _ => ran pace.quantum h

/-- What every firing and every quantum keep, the turns of a run keep, whatever comes of them. -/
theorem loop_keeps (pace : Pace) (pending : List GuestEvent) (h : Q sim) :
    Q (loop pace pending sim).2 := by
  induction pending, sim using loop.induct pace with
  | case1 pending sim result final ended =>
    have turned := turn_keeps fired ran pace pending h
    rw [ended] at turned
    rw [loop_of_turn_eq_ended ended]
    exact turned
  | case2 pending sim left next goesOn ih =>
    have turned := turn_keeps fired ran pace pending h
    rw [goesOn] at turned
    rw [loop_of_turn_eq_goesOn goesOn]
    exact ih turned

end Keeps

/-! ## What a run keeps of its session -/

section Requests

variable {P : Session → Prop}
  (kept : ∀ {session : Session} request, P session → P (session.perform request))

include kept

theorem fire_keeps_session (trigger : Trigger) (h : P sim.session) :
    P (sim.fire trigger).2.session :=
  fire_keeps (kept (.kernel .synchronize rfl)) (fun move => kept (.move move)) h trigger

theorem runQuantum_keeps_session (ticks : Nat) (h : P sim.session) :
    P (sim.runQuantum ticks).session :=
  kept (.kernel (.runQuantum ticks sim.workload.fpFraction) rfl) h

theorem loop_keeps_session (pace : Pace) (pending : List GuestEvent) (h : P sim.session) :
    P (loop pace pending sim).2.session :=
  loop_keeps (Q := fun sim => P sim.session) (fire_keeps_session kept)
    (runQuantum_keeps_session kept) pace pending h

theorem start_keeps (h : P sim.session) : P sim.start.2.session := by
  have joined := kept .incorporate h
  unfold start
  split
  · exact h
  · split
    · exact h
    · simp only [Session.perform, session] at joined
      split
      · next eq =>
        rw [eq] at joined
        exact joined
      · next machine kernel eq =>
        rw [eq] at joined
        have booted := kept (.kernel (.boot machine.processor.models) rfl) joined
        simp only [Session.perform, Kernel.perform] at booted
        split
        all_goals
          next eq =>
            rw [eq] at booted
            exact booted

/-- What every request keeps, a run keeps, whatever comes of it. -/
theorem run_keeps (h : P sim.session) : P sim.run.2.session := by
  have started := start_keeps kept h
  unfold run
  split
  · next eq => exact keeps_of_eq (Q := fun sim => P sim.session) started eq
  · next pace sim eq =>
    have ran := loop_keeps_session kept pace sim.workload.schedule
      (keeps_of_eq (Q := fun sim => P sim.session) started eq)
    split
    all_goals
      next eq => exact keeps_of_eq (Q := fun sim => P sim.session) ran eq

end Requests

/-! ## Runs with a report -/

/-- What a start comes to after which turns can be taken. -/
structure Started (sim : Simulator) (pace : Pace) (started : Simulator) : Prop where
  start : sim.start = (.ok pace, started)
  pace : sim.config.pace = .ok pace
  valid : sim.workload.error? = none
  session : ∃ kernel,
    sim.machine.incorporate sim.kernel = (.ok (), started.machine, kernel) ∧
      kernel.boot started.machine.processor.models = (.ok (), started.kernel)
  workload : started.workload = sim.workload
  config : started.config = sim.config
  handlers : started.handlers = sim.handlers
  events : started.events = sim.events

theorem start_of_session {machine : Machine} {joined kernel : Kernel}
    (paced : sim.config.pace = .ok pace) (valid : sim.workload.error? = none)
    (incorporated : sim.machine.incorporate sim.kernel = (.ok (), machine, joined))
    (booted : joined.boot machine.processor.models = (.ok (), kernel)) :
    sim.start = (.ok pace, { sim with machine, kernel }) := by
  simp [start, paced, valid, incorporated, booted]

theorem started_of_start (h : sim.start = (.ok pace, started)) : Started sim pace started := by
  have hstart := h
  unfold start at h
  split at h
  · cases h
  · next paced =>
    split at h
    · cases h
    · next valid =>
      split at h
      · cases h
      · next joined =>
        split at h
        · cases h
        · next booted =>
          cases h
          exact ⟨hstart, paced, valid, ⟨_, joined, booted⟩, rfl, rfl, rfl, rfl⟩

theorem started_of_run {report : RunReport} (h : sim.run = (.ok report, final)) :
    ∃ pace started reason, Started sim pace started ∧
      loop pace sim.workload.schedule started = (.ok reason, final) ∧
      report = final.report reason := by
  unfold run at h
  split at h
  · cases h
  · next pace started eq =>
    have hstarted := started_of_start eq
    split at h
    · cases h
    · next reason last ended =>
      cases h
      rw [hstarted.workload] at ended
      exact ⟨pace, started, reason, hstarted, ended, rfl⟩

theorem run_of_start_of_error {error : RunError} (start : sim.start = (.ok pace, started))
    (turns : loop pace started.workload.schedule started = (.error error, final)) :
    sim.run = (.error error, final) := by
  rw [run, start]
  dsimp only
  rw [turns]

theorem run_of_start {reason : ExitReason} (start : sim.start = (.ok pace, started))
    (turns : loop pace started.workload.schedule started = (.ok reason, final)) :
    sim.run = (.ok (final.report reason), final) := by
  rw [run, start]
  dsimp only
  rw [turns]

namespace Started

theorem alone (h : Started sim pace started) : sim.machine.processor.isIncorporated = false := by
  obtain ⟨kernel, joined, -⟩ := h.session
  rcases sim.machine.incorporate_cases sim.kernel with
    ⟨_, _, _, refused, -⟩ | ⟨_, _, _, alone, -, -⟩
  · cases joined.symm.trans refused
  · exact alone

theorem isIncorporated (h : Started sim pace started) :
    started.machine.processor.isIncorporated = true := by
  obtain ⟨kernel, joined, -⟩ := h.session
  exact Machine.isIncorporated_of_incorporate joined

/-- The kernel that boots was led to by the requests that led to the simulator's and by those of an
incorporation. -/
theorem exists_boot {allowed : Kernel.Request → Prop} (h : Started sim pace started)
    (reachable : Kernel.ReachableBy allowed sim.kernel) (host : allowed .enableHostAcceleration)
    (assign : ∀ model timeline, allowed (.assignTimeline model timeline))
    (mode : ∀ memMode, allowed (.setMemMode memMode)) :
    ∃ kernel, Kernel.ReachableBy allowed kernel ∧
      kernel.boot started.machine.processor.models = (.ok (), started.kernel) := by
  obtain ⟨kernel, joined, booted⟩ := h.session
  have ready : Kernel.ReachableBy allowed (sim.machine.incorporate sim.kernel).2.2 :=
    Session.reachable_incorporate host assign mode reachable
  rw [joined] at ready
  exact ⟨kernel, ready, booted⟩

theorem exists_boot_of_reachable (h : Started sim pace started)
    (reachable : sim.kernel.Reachable) :
    ∃ kernel : Kernel, kernel.Reachable ∧
      kernel.boot started.machine.processor.models = (.ok (), started.kernel) :=
  h.exists_boot reachable trivial (fun _ _ => trivial) fun _ => trivial

theorem wf (h : Started sim pace started) (wf : sim.machine.processor.WF) :
    started.machine.processor.WF := by
  obtain ⟨kernel, joined, -⟩ := h.session
  have kept : (sim.session.perform .incorporate).processor.WF := Session.wf_perform wf .incorporate
  simp only [Session.perform, Simulator.session, joined] at kept
  exact kept

theorem coupled (h : Started sim pace started) (wf : sim.machine.processor.WF)
    (reachable : sim.kernel.Reachable) : started.session.Coupled := by
  obtain ⟨kernel, ready, booted⟩ := h.exists_boot_of_reachable reachable
  let session : Session := { machine := started.machine, kernel }
  have coupled : Session.Coupled { session with kernel := started.kernel } :=
    .boot (h.wf wf) ready booted
  exact coupled

/-- Nothing has been retired when the first turn begins. -/
theorem total_eq_zero (h : Started sim pace started) (reachable : sim.kernel.Reachable) :
    started.kernel.totalInstructions = 0 := by
  obtain ⟨kernel, ready, booted⟩ := h.exists_boot_of_reachable reachable
  have books : started.kernel.Books := by
    have kept := ready.books.boot started.machine.processor.models
    rwa [booted] at kept
  rw [books.conserved]
  rcases kernel.boot_cases started.machine.processor.models with
    ⟨_, refused⟩ | ⟨unbooted, -, granted⟩
  · cases booted.symm.trans refused
  · rw [(Prod.mk.inj (booted.symm.trans granted)).2]
    exact (Kernel.totalRetired_startAll _ kernel).trans (ready.books.totalRetired_eq_zero unbooted)

/-- On a kernel that has simulated no time none has passed when the first turn begins. -/
theorem fresh (h : Started sim pace started) (fresh : sim.kernel.Fresh) :
    started.kernel.Fresh := by
  obtain ⟨kernel, ready, booted⟩ := h.exists_boot fresh rfl (fun _ _ => rfl) fun _ => rfl
  have kept : (kernel.perform (.boot started.machine.processor.models)).Fresh :=
    .perform (.boot started.machine.processor.models) rfl ready
  rwa [Kernel.perform, booted] at kept

end Started

theorem events_start (sim : Simulator) : sim.start.2.events = sim.events := by
  unfold start
  split
  · rfl
  · split
    · rfl
    · split
      · rfl
      · split
        · rfl
        · rfl

/-- A run is over with its start, or with the last of its turns. -/
theorem run_cases (sim : Simulator) :
    (∃ error, sim.start.1 = .error error ∧ sim.run.2 = sim.start.2) ∨
      ∃ pace started, Started sim pace started ∧
        sim.run.2 = (loop pace started.workload.schedule started).2 := by
  unfold run
  split
  · next error next eq => exact .inl ⟨error, by rw [eq], by rw [eq]⟩
  · next pace started eq =>
    refine .inr ⟨pace, started, started_of_start eq, ?_⟩
    split
    all_goals
      next eq => rw [eq]

/-! ## Reachable simulators -/

/-- The simulators that come of any use: their kernels may be asked for anything, and their handlers
may be replaced, before, between and after runs. -/
inductive Reachable : Simulator → Prop where
  | create {machine : Machine} {kernel : Kernel} (created : machine.Created)
    (reachable : kernel.Reachable) (workload : Workload) (config : RunConfig) :
    Reachable { machine, kernel, workload, config }
  | install {sim : Simulator} (handlers : Trigger → Option Handler) :
    Reachable sim → Reachable { sim with handlers }
  | request {sim : Simulator} (request : Kernel.Request) :
    Reachable sim → Reachable { sim with kernel := sim.kernel.perform request }
  | run {sim : Simulator} : Reachable sim → Reachable sim.run.2

namespace Reachable

theorem wf_and_kernel (h : sim.Reachable) :
    sim.machine.processor.WF ∧ sim.kernel.Reachable := by
  induction h with
  | create created reachable => exact ⟨created.wf, reachable⟩
  | install handlers _ ih => exact ih
  | request request _ ih => exact ⟨ih.1, .perform request trivial ih.2⟩
  | run _ ih =>
    refine run_keeps (P := fun session => session.processor.WF ∧ session.kernel.Reachable) ?_ ih
    exact fun request h => ⟨Session.wf_perform h.1 request, Session.reachable_perform h.2 request⟩

/-- No event has been delivered as long as the machine has not joined a board. -/
theorem events_eq_nil (h : sim.Reachable)
    (alone : sim.machine.processor.isIncorporated = false) : sim.events = [] := by
  induction h with
  | create => rfl
  | install handlers _ ih => exact ih alone
  | request request _ ih => exact ih alone
  | @run sim _ ih =>
    have stays {session : Session} (request : Session.Request) :
        session.processor.isIncorporated = true →
          (session.perform request).processor.isIncorporated = true :=
      fun joined => session.isIncorporated_perform joined request
    rcases sim.run_cases with ⟨_, -, last⟩ | ⟨pace, started, hstarted, last⟩
    · rw [last] at alone ⊢
      rw [events_start]
      refine ih (Bool.eq_false_iff.mpr fun joined => ?_)
      have kept : sim.start.2.session.processor.isIncorporated = true :=
        start_keeps (P := fun session => session.processor.isIncorporated = true) stays joined
      exact Bool.false_ne_true (alone.symm.trans kept)
    · rw [last] at alone
      have kept : (loop pace started.workload.schedule started).2.session.processor.isIncorporated =
          true :=
        loop_keeps_session (P := fun session => session.processor.isIncorporated = true) stays pace
          _ hstarted.isIncorporated
      exact absurd (alone.symm.trans kept) Bool.false_ne_true

end Reachable

/-! ## Sample runs -/

/-- That a run ends with a report of some kind is found out by running it. -/
theorem exists_run_of_any {sim : Simulator} {p : RunReport → Bool}
    (h : sim.run.1.toOption.any p = true) :
    ∃ report final, sim.run = (.ok report, final) ∧ p report = true := by
  rcases ran : sim.run with ⟨error | report, final⟩
  · rw [ran] at h
    cases h
  · rw [ran] at h
    exact ⟨report, final, rfl, h⟩

/-- The machine of two cores, with a guest that retires ten instructions in a quantum and raises an
exit at the fifth. -/
def duo : Simulator where
  machine := .duo
  kernel := .duo
  workload := Workload.withExitPoint { name := "duo", instructions := 10 } 5
  config := { quantum := 10, maxTicks := 100 }

theorem reachable_duo : duo.Reachable :=
  .create Machine.created_duo Kernel.fresh_duo.reachable _ _

theorem schedule_duo : duo.workload.schedule = [⟨5, .exit⟩] := by
  simp [duo, Workload.schedule, Workload.withExitPoint, Workload.sortByCount, Workload.exitEvents]

theorem error?_workload_duo : duo.workload.error? = none := by
  refine Workload.error?_eq_none_iff.mpr ⟨Nat.succ_pos 9, Workload.isShare_default, ?_⟩
  rw [schedule_duo]
  decide

/-- The run of the two cores ends with a report. -/
theorem exists_run_duo : ∃ report final, duo.run = (.ok report, final) := by
  have ends : (duo.run.1.toOption.any fun _ => true) = true := by decide +kernel
  obtain ⟨report, final, ran, -⟩ := exists_run_of_any ends
  exact ⟨report, final, ran⟩

/-- The machine of four cores, two of which retire twenty instructions together in a quantum. The
guest raises a checkpoint in the first quantum and is done in the second. -/
def quad : Simulator where
  machine := .quad
  kernel := .quad
  workload := Workload.withCheckpoint { name := "quad", instructions := 30 } 15
  config := { quantum := 10, maxTicks := 100 }

theorem reachable_quad : quad.Reachable :=
  .create (.switchable Machine.create_quad) Kernel.fresh_quad.reachable _ _

end Simulator

end Polycore
