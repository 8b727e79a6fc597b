import Mathlib.Data.List.Zip
import Polycore.Proofs.Processor.Standing
import Polycore.Proofs.Session.Isolation

/-!
# Routes

Where a machine goes by switches that are all granted depends on where it ends, not on the way. It
stands on a configuration as it would stand there by any other way (`Machine.standing`), and the
objects of its kernel are those that it began with or those that one switch would have left
(`Arrival`). A step keeps to that (`Reaches.step`), so a whole walk does (`Reaches.walk`). The main
statement is `path_independent`.
-/

namespace Polycore.Session

open Machine (Intact)

variable {configurations : List Configuration} {session start now next last : Session}
  {name : String} {names : List String}

/-- A switch that is granted takes the machine to a configuration where it did not stand, and the
kernel exchanges the models. -/
theorem exists_of_switchTo_eq_ok (intact : Intact configurations session.machine)
    (h : session.machine.switchTo name session.kernel = (.ok (), next.machine, next.kernel)) :
    ∃ target models, session.processor.models? target = some models ∧
      target ≠ session.processor.active ∧
      session.kernel.Exchangeable (session.processor.models.zip models) ∧
      next.machine = session.machine.standing target ∧
      next.kernel = session.kernel.exchange (session.processor.models.zip models) := by
  cases found : session.processor.switchError? (session.machine.target name) with
  | some error =>
    rw [Machine.switchTo_of_switchError? found] at h
    cases h
  | none =>
    obtain ⟨-, target, known, other, -⟩ := Processor.exists_of_switchError?_eq_none found
    rcases swapped : Board.swap (session.processor.handOver target) session.kernel with
      ⟨_ | _, kernel⟩
    · rw [Machine.switchTo_of_swap found known swapped] at h
      cases h
    · rw [Machine.switchTo_of_swap found known swapped] at h
      obtain ⟨-, machine, kernel⟩ := Prod.mk.inj h |>.imp_right Prod.mk.inj
      obtain ⟨ok, exchanged⟩ := Kernel.exchange_of_swap_eq_ok swapped
      refine ⟨session.machine.target name, target.models, ?_, other, ok, ?_, ?_⟩
      · rw [Processor.models?, known, Option.map_some]
      · exact machine.symm.trans (intact.switched_eq known other)
      · exact kernel.symm.trans exchanged

/-! ## What a walk comes to -/

/-- The session after switches to some names, one after the other, unless one is refused. A pair
toggles, whatever the name. -/
def walk (session : Session) : List String → Except ProcessorError Session
  | [] => .ok session
  | name :: names =>
    match session.machine.switchTo name session.kernel with
    | (.error error, _, _) => .error error
    | (.ok (), machine, kernel) => walk { machine, kernel } names

theorem exists_of_walk_cons (h : session.walk (name :: names) = .ok last) :
    ∃ next : Session,
      session.machine.switchTo name session.kernel = (.ok (), next.machine, next.kernel) ∧
        next.walk names = .ok last := by
  rw [walk] at h
  split at h
  · cases h
  · next machine kernel granted => exact ⟨{ machine, kernel }, granted, h⟩

/-- The objects that a session comes to have on a configuration: those with which it started, or
those that one switch would have left. -/
def Arrival (start : Session) (name : String) (objects : List CoreObject) : Prop :=
  name = start.processor.active ∧ objects = start.kernel.objects ∨
  name ≠ start.processor.active ∧ ∃ models, start.processor.models? name = some models ∧
    start.kernel.Exchangeable (start.processor.models.zip models) ∧
    objects = (start.kernel.exchange (start.processor.models.zip models)).objects

theorem Arrival.unique {first second : List CoreObject} (h : start.Arrival name first)
    (h' : start.Arrival name second) : first = second := by
  rcases h with ⟨home, rfl⟩ | ⟨away, models, known, -, rfl⟩
  · rcases h' with ⟨-, rfl⟩ | ⟨away, -⟩
    · rfl
    · exact absurd home away
  · rcases h' with ⟨home, -⟩ | ⟨-, models', known', -, rfl⟩
    · exact absurd home away
    · cases known.symm.trans known'
      rfl

/-- One session can come of another by switches. -/
structure Reaches (start now : Session) : Prop where
  machine : now.machine = start.machine.standing now.processor.active
  objects : start.Arrival now.processor.active now.kernel.objects

namespace Reaches

theorem refl (intact : Intact configurations start.machine) : start.Reaches start :=
  ⟨intact.standing_active.symm, .inl ⟨rfl, rfl⟩⟩

theorem models? (h : start.Reaches now) (name : String) :
    now.processor.models? name = start.processor.models? name := by
  rw [processor, h.machine, Machine.processor_standing, Processor.models?_standing]

/-- Where all slots go from an arrival, they could have gone from the start. -/
theorem step (h : start.Reaches now) (wf : start.processor.WF)
    (intact : Intact configurations now.machine)
    (granted : now.machine.switchTo name now.kernel = (.ok (), next.machine, next.kernel)) :
    start.Reaches next := by
  obtain ⟨target, models, known, other, ok, machine, kernel⟩ :=
    exists_of_switchTo_eq_ok intact granted
  have fits := intact.wf.length_of_models? known
  have active : next.processor.active = target := by
    rw [processor, machine, Machine.processor_standing]
    rfl
  rw [h.models?] at known
  refine ⟨?_, ?_⟩
  · rw [active, machine, h.machine, Machine.standing_standing]
  · rw [active, kernel]
    have stands :
        now.processor.models = (start.processor.models? now.processor.active).getD [] := by
      rw [Processor.models_eq_models?, h.models?]
    rcases h.objects with ⟨home, objects⟩ | ⟨away, middle, found, ok', objects⟩
    · rw [home, ← Processor.models_eq_models?] at stands
      rw [home] at other
      rw [stands] at ok ⊢
      exact .inr ⟨other, models, known, ok.of_objects objects.symm,
        Kernel.objects_exchange_of_objects objects _⟩
    · rw [found, Option.getD_some] at stands
      rw [stands] at ok fits ⊢
      rw [Kernel.objects_exchange_of_objects objects]
      have fits' := wf.length_of_models? found
      by_cases back : target = start.processor.active
      · have same : models = start.processor.models := by
          rw [Processor.models_eq_models?, ← back, known, Option.getD_some]
        refine .inl ⟨back, ?_⟩
        rw [same, ← List.zip_swap]
        exact ok'.objects_exchange_reversed
      · have onward := ok.of_objects objects.symm
        have apart := wf.disjoint_of_models? known back
        exact .inr ⟨back, models, known, ok'.direct onward fits' fits apart,
          ok'.objects_exchange_exchange onward fits' fits apart⟩

theorem walk (h : start.Reaches now) (wf : start.processor.WF)
    (intact : Intact configurations now.machine) (walked : now.walk names = .ok last) :
    start.Reaches last := by
  induction names generalizing now with
  | nil =>
    cases walked
    exact h
  | cons name names ih =>
    obtain ⟨next, granted, walked⟩ := exists_of_walk_cons walked
    have kept := intact.switchTo name now.kernel
    rw [granted] at kept
    exact ih (h.step wf intact granted) kept walked

end Reaches

/-- Of a kernel a walk changes the objects, brings the clocks into step and counts its switches. -/
theorem kernel_of_walk (intact : Intact configurations session.machine)
    (walked : session.walk (name :: names) = .ok last) :
    last.kernel = { session.kernel with
      objects := last.kernel.objects
      clocks := session.kernel.clocks.synchronize
      swaps := session.kernel.swaps + (name :: names).length } := by
  induction names generalizing session name with
  | nil =>
    obtain ⟨next, granted, walked⟩ := exists_of_walk_cons walked
    cases walked
    obtain ⟨_, _, -, -, -, -, kernel⟩ := exists_of_switchTo_eq_ok intact granted
    rw [kernel]
    exact session.kernel.exchange_eq _
  | cons second names ih =>
    obtain ⟨next, granted, walked⟩ := exists_of_walk_cons walked
    obtain ⟨_, _, -, -, -, -, kernel⟩ := exists_of_switchTo_eq_ok intact granted
    have kept := intact.switchTo name session.kernel
    rw [granted] at kept
    have count : session.kernel.swaps + 1 + (second :: names).length =
        session.kernel.swaps + (name :: second :: names).length := by
      simp only [List.length_cons]
      omega
    rw [ih kept walked, kernel, Kernel.exchange_eq]
    simp only [Clocks.synchronize_synchronize, count]

/-- It makes no difference by which way a machine goes. However it was called for before, on boards
that may grant or refuse anything, and whatever state its kernel is in: two walks of at least one
switch that are granted all the way and end on the same configuration leave the same machine, and
kernels that differ at most in how many swaps they counted, which is one for every switch. A walk
back to where it began leaves the machine and every object as they were. -/
theorem path_independent {σ : Type} [Board σ] {machine : Machine}
    (made : machine.MadeOf configurations) (calls : List (Machine.Call × σ)) (kernel : Kernel)
    {route route' : List String} {last last' : Session}
    (walked : walk { machine := machine.after calls, kernel } route = .ok last)
    (walked' : walk { machine := machine.after calls, kernel } route' = .ok last')
    (moved : route ≠ []) (moved' : route' ≠ [])
    (same : last.processor.active = last'.processor.active) :
    last.machine = last'.machine ∧
      { last.kernel with swaps := last'.kernel.swaps } = last'.kernel ∧
      last.kernel.swaps = kernel.swaps + route.length ∧
      (last.processor.active = (machine.after calls).processor.active →
        last.machine = machine.after calls ∧ last.kernel.objects = kernel.objects) := by
  let start : Session := { machine := machine.after calls, kernel }
  have intact : Intact configurations start.machine := made.intact.1.after calls
  have home : start.Reaches start := .refl intact
  have reached := home.walk intact.wf intact walked
  have reached' := home.walk intact.wf intact walked'
  obtain ⟨name, names, rfl⟩ := List.exists_cons_of_ne_nil moved
  obtain ⟨name', names', rfl⟩ := List.exists_cons_of_ne_nil moved'
  have rest := kernel_of_walk intact walked
  have rest' := kernel_of_walk intact walked'
  have objects : last.kernel.objects = last'.kernel.objects :=
    reached.objects.unique (same ▸ reached'.objects)
  refine ⟨?_, ?_, congrArg Kernel.swaps rest, fun back => ⟨?_, ?_⟩⟩
  · rw [reached.machine, reached'.machine, same]
  · rw [rest, rest', objects]
  · rw [reached.machine, back]
    exact home.machine.symm
  · exact reached.objects.unique (.inl ⟨back, rfl⟩)

theorem path_independent_trio :
    let kernel : Kernel := ([CoreModel.bigKvm, .dummy, .bigKvm].map .instantiate).foldl
      Kernel.perform (.create 0 false)
    let calls : List (Machine.Call × Kernel) := [(.incorporate, kernel)]
    let machine := hostTrio.after calls
    let booted := ((hostTrio.incorporate kernel).2.2.boot [⟨1⟩]).2
    let start : Session := { machine, kernel := booted.retire ⟨1⟩ 10 }
    ∃ direct around back,
      start.walk ["last"] = .ok direct ∧
      start.walk ["first", "atomic", "last"] = .ok around ∧
      start.walk ["last", "first", "atomic"] = .ok back ∧
      direct.machine = around.machine ∧
      { direct.kernel with swaps := around.kernel.swaps } = around.kernel ∧
      back.machine = machine ∧ back.kernel.objects = start.kernel.objects := by
  intro kernel calls machine booted start
  have created : Processor.create
      [hostCore "first" ⟨0⟩, Machine.soleCore "atomic" ⟨1⟩, hostCore "last" ⟨2⟩] "atomic" =
    .ok hostTrio.processor := rfl
  have made : hostTrio.MadeOf
      [hostCore "first" ⟨0⟩, Machine.soleCore "atomic" ⟨1⟩, hostCore "last" ⟨2⟩] :=
    .switchable created
  obtain ⟨direct, walked, stands⟩ : ∃ last : Session,
      start.walk ["last"] = .ok last ∧ last.processor.active = "last" := ⟨_, rfl, rfl⟩
  obtain ⟨around, walked', stands'⟩ : ∃ last : Session,
      start.walk ["first", "atomic", "last"] = .ok last ∧
        last.processor.active = "last" := ⟨_, rfl, rfl⟩
  obtain ⟨back, returned, home⟩ : ∃ last : Session,
      start.walk ["last", "first", "atomic"] = .ok last ∧
        last.processor.active = machine.processor.active := ⟨_, rfl, rfl⟩
  obtain ⟨same, alike, -⟩ := path_independent made calls start.kernel walked walked'
    (List.cons_ne_nil _ _) (List.cons_ne_nil _ _) (stands.trans stands'.symm)
  obtain ⟨-, -, -, restored⟩ := path_independent made calls start.kernel returned returned
    (List.cons_ne_nil _ _) (List.cons_ne_nil _ _) rfl
  obtain ⟨as_before, objects⟩ := restored home
  exact ⟨direct, around, back, walked, walked', returned, same, alike, as_before, objects⟩

end Polycore.Session
