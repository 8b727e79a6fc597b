import Polycore.Proofs.Kernel.Exchange
import Polycore.Proofs.Processor.Machines
import Polycore.Proofs.Session.Coupling

/-!
# What is granted

A kernel refuses nothing without a reason. A machine whose models are all registered joins a kernel
on which no isolated timeline is taken (`Machine.incorporate_granted`), its active models boot on a
kernel that has not booted (`Kernel.boot_granted`), and from then on a pair toggles unless a refusal
is armed (`Session.Settled.toggle_granted`).
-/

namespace Polycore

/-! ## Kernels -/

namespace Kernel

variable {kernel : Kernel} {model : ModelId} {timeline : Timeline}

/-- A registered model can be put on a timeline that is shared or on which no other stands. -/
theorem assignTimeline_granted (registered : (kernel.object? model).isSome = true)
    (free : timeline.isShared = false →
      ∀ other, kernel.timeline? other = some timeline → other = model) :
    kernel.assignTimeline model timeline =
      (.ok (), { kernel.modifyObject model (·.setTimeline timeline) with
        clocks := kernel.clocks.ensure timeline }) := by
  obtain ⟨object, found⟩ := Option.isSome_iff_exists.mp registered
  rw [assignTimeline, found]
  cases isolated : timeline.isShared with
  | true => rfl
  | false =>
    rw [owner?_eq_none_iff.mpr (free isolated)]
    rfl

theorem boot_granted (books : kernel.Books) (unbooted : kernel.booted = false)
    {active : List ModelId} (registered : ∀ model ∈ active, (kernel.object? model).isSome = true) :
    kernel.boot active = (.ok (), { kernel.startAll active with booted := true }) := by
  have free : active.findSome? kernel.startError? = none := by
    refine List.findSome?_eq_none_iff.mpr fun model mem => startError?_eq_none_iff.mpr ?_
    exact ⟨registered model mem, isRunning_eq_false_iff.mpr (books.not_running unbooted model)⟩
  rw [boot, unbooted, if_neg Bool.false_ne_true, free]
  rfl

end Kernel

/-! ## Joining a kernel -/

namespace Processor

variable {processor : Processor} {kernel : Kernel} {bindings : List (ModelId × Timeline)}

/-- The cores get the isolated timelines that follow one another from `first` on. -/
theorem isolate_granted {first : Nat} {cores : List CoreHandle}
    (fits : first + cores.length < Word.bound32) :
    ∃ bindings, isolate first cores = .ok bindings ∧
      bindings.map (·.1) = cores.map (·.model) ∧
      bindings.map (·.2) = (List.range' (first + 1) cores.length).map Timeline.mk := by
  induction cores generalizing first with
  | nil => exact ⟨[], rfl, rfl, rfl⟩
  | cons core rest ih =>
    rw [List.length_cons] at fits
    obtain ⟨bindings, granted, models, timelines⟩ := @ih (first + 1) (by omega)
    have next : Timeline.isolated? first = some ⟨first + 1⟩ := if_pos (by omega)
    refine ⟨(core.model, ⟨first + 1⟩) :: bindings, ?_, ?_, ?_⟩
    · rw [isolate, next, granted]
    · rw [List.map_cons, models, List.map_cons]
    · rw [List.map_cons, timelines, List.length_cons, List.range'_succ, List.map_cons]

/-- There are not enough isolated timelines for as many cores as there are words. -/
theorem lt_of_isolate_eq_ok {first : Nat} {cores : List CoreHandle}
    (below : first < Word.bound32) (h : isolate first cores = .ok bindings) :
    first + cores.length < Word.bound32 := by
  induction cores generalizing first bindings with
  | nil => exact below
  | cons core rest ih =>
    rw [isolate] at h
    split at h
    · cases h
    · next next =>
      split at h
      · cases h
      · next later isolated =>
        have fits : first + 1 < Word.bound32 := by
          by_contra beyond
          rw [Timeline.isolated?, if_neg beyond] at next
          cases next
        have all := ih fits isolated
        rw [List.length_cons]
        omega

/-- The accelerated cores get the isolated timelines that follow one another. -/
theorem bindings_of_isolatedTimelines (h : processor.isolatedTimelines = .ok bindings) :
    bindings.map (·.1) = (processor.allCores.filter (·.accelerated)).map (·.model) ∧
      bindings.map (·.2) = (List.range' 1
        (processor.allCores.filter (·.accelerated)).length).map Timeline.mk := by
  obtain ⟨_, granted, models, timelines⟩ := isolate_granted (lt_of_isolate_eq_ok (by decide) h)
  cases h.symm.trans granted
  exact ⟨models, timelines⟩

theorem nodup_timelines_of_isolatedTimelines (h : processor.isolatedTimelines = .ok bindings) :
    (bindings.map (·.2)).Nodup := by
  rw [(bindings_of_isolatedTimelines h).2]
  exact List.Nodup.map (f := Timeline.mk) (fun _ _ same => congrArg Timeline.index same)
    List.nodup_range'

/-- Registered models can be put on timelines on which nobody stands. -/
theorem assignAll_granted (registered : ∀ binding ∈ bindings,
      (kernel.object? binding.1).isSome = true)
    (distinct : (bindings.map (·.2)).Nodup)
    (free : ∀ binding ∈ bindings, ∀ model, kernel.timeline? model ≠ some binding.2) :
    ∃ kernel', assignAll bindings kernel = (.ok (), kernel') := by
  induction bindings generalizing kernel with
  | nil => exact ⟨kernel, rfl⟩
  | cons binding rest ih =>
    rw [List.forall_mem_cons] at registered free
    obtain ⟨unused, distinct⟩ := List.nodup_cons.mp distinct
    have granted := Kernel.assignTimeline_granted registered.1
      fun _ other stands => absurd stands (free.1 other)
    let next : Kernel := kernel.perform (.assignTimeline binding.1 binding.2)
    have ok : (kernel.assignTimeline binding.1 binding.2).1 = .ok () := congrArg Prod.fst granted
    have answer : Board.assignTimeline binding.1 binding.2 kernel = (.ok (), next) :=
      Prod.ext ok rfl
    -- the timeline that is taken now is none of those still to be taken
    have still : ∀ later ∈ rest, ∀ other, next.timeline? other ≠ some later.2 := by
      intro later mem other stands
      rw [Kernel.timeline?_of_assignTimeline_eq_ok answer] at stands
      split at stands
      · exact unused (List.mem_map.mpr ⟨later, mem, (Option.some.inj stands).symm⟩)
      · exact free.2 later mem other stands
    have known : ∀ later ∈ rest, (next.object? later.1).isSome = true :=
      fun later mem => Kernel.isSome_object?_perform (registered.2 later mem) _
    obtain ⟨kernel', assigned⟩ := @ih next known distinct still
    refine ⟨kernel', ?_⟩
    rw [assignAll, answer]
    exact assigned

/-- The accelerated cores of a processor whose models are all registered are put on their timelines,
if no isolated timeline is taken. -/
theorem bindAccelerated_granted (isolated : processor.isolatedTimelines = .ok bindings)
    (registered : ∀ core ∈ processor.allCores, (kernel.object? core.model).isSome = true)
    (free : ∀ model timeline, kernel.timeline? model = some timeline →
      timeline.isShared = true) :
    ∃ kernel', bindAccelerated bindings kernel = (.ok (), kernel') := by
  obtain ⟨models, timelines⟩ := bindings_of_isolatedTimelines isolated
  have known : ∀ binding ∈ bindings, (kernel.object? binding.1).isSome = true := by
    intro binding mem
    have listed : binding.1 ∈ (processor.allCores.filter (·.accelerated)).map (·.model) :=
      models ▸ List.mem_map_of_mem mem
    obtain ⟨core, hcore, same⟩ := List.mem_map.mp listed
    rw [← same]
    exact registered core (List.mem_filter.mp hcore).1
  have distinct := nodup_timelines_of_isolatedTimelines isolated
  have untaken : ∀ binding ∈ bindings, ∀ model, kernel.timeline? model ≠ some binding.2 := by
    intro binding mem model stands
    have listed := List.mem_map_of_mem (f := (·.2)) mem
    rw [timelines] at listed
    obtain ⟨index, hindex, same⟩ := List.mem_map.mp listed
    have shared := Timeline.isShared_iff.mp (free model binding.2 stands)
    have positive := (List.mem_range'_1.mp hindex).1
    rw [← same] at shared
    exact absurd (congrArg Timeline.index shared) (Nat.ne_of_gt positive)
  unfold bindAccelerated
  split
  · exact ⟨kernel, rfl⟩
  · exact @assignAll_granted { kernel with hostAcceleration := true } _ known distinct untaken

end Processor

/-- A machine whose models are all registered joins a kernel on which no isolated timeline is
taken. -/
theorem Machine.incorporate_granted {machine : Machine} {kernel : Kernel}
    (alone : machine.processor.timelines = none)
    (fits : (machine.processor.allCores.filter (·.accelerated)).length < Word.bound32)
    (registered : ∀ core ∈ machine.processor.allCores, (kernel.object? core.model).isSome = true)
    (free : ∀ model timeline, kernel.timeline? model = some timeline →
      timeline.isShared = true) :
    ∃ machine' kernel', machine.incorporate kernel = (.ok (), machine', kernel') := by
  rw [← Nat.zero_add (List.length _)] at fits
  obtain ⟨bindings, isolated, -, -⟩ := Processor.isolate_granted fits
  obtain ⟨kernel', bound⟩ := Processor.bindAccelerated_granted isolated registered free
  have joining : machine.processor.joining = .ok bindings := by
    rw [Processor.joining, Processor.isIncorporated, alone]
    exact isolated
  exact ⟨_, _, machine.incorporate_of_granted joining bound⟩

/-! ## Switching -/

namespace Session

variable {session : Session} {target : Configuration} {name : String}

/-- In a coupled session every other configuration can take over, if its models are registered. -/
theorem Coupled.exchangeable (h : Coupled session)
    (known : session.processor.configuration? name = some target)
    (other : name ≠ session.processor.active)
    (registered : ∀ model ∈ target.models, (session.kernel.object? model).isSome = true) :
    session.kernel.Exchangeable (session.processor.handOver target) := by
  have mem := (Processor.configuration?_eq_some known).1
  have apart := h.wf.disjoint_models known other
  have distinct := (List.nodup_flatMap.mp h.wf.models).1 target mem
  refine ⟨?_, fun pair hpair => ?_, fun pair hpair => ?_, fun pair hpair => ?_⟩
  · refine (Kernel.mentioned_zip_perm (h.wf.length_models mem)).nodup_iff.mpr ?_
    exact List.nodup_append'.mpr ⟨h.wf.nodup_models, distinct, apart⟩
  · exact (h.running _).mpr (List.of_mem_zip hpair).1
  · exact registered _ (List.of_mem_zip hpair).2
  · rw [← Bool.not_eq_true, h.running]
    exact fun active => apart active (List.of_mem_zip hpair).2

/-- The kernel has an object for every core of the machine. -/
def Registered (session : Session) : Prop :=
  ∀ core ∈ session.processor.allCores, (session.kernel.object? core.model).isSome = true

namespace Registered

theorem models (h : Registered session) {configuration : Configuration}
    (known : configuration ∈ session.processor.configurations) :
    ∀ model ∈ configuration.models, (session.kernel.object? model).isSome = true :=
  List.forall_mem_map.mpr fun core mem => h core (List.mem_flatMap.mpr ⟨_, known, mem⟩)

theorem active (h : Registered session) (wf : session.processor.WF) :
    ∀ model ∈ session.processor.models, (session.kernel.object? model).isSome = true := by
  obtain ⟨current, hcurrent, hcores⟩ := wf.exists_current?
  rw [Processor.models, hcores]
  exact h.models (Processor.configuration?_eq_some hcurrent).1

theorem perform (h : Registered session) (request : Request) :
    Registered (session.perform request) := by
  have before : ∀ model ∈ session.processor.allCores.map (·.model),
      (session.kernel.object? model).isSome = true := List.forall_mem_map.mpr h
  rw [← Processor.models_allCores_of_outline (session.outline_perform request)] at before
  intro core mem
  refine kernel_perform_keeps (P := fun kernel => (kernel.object? core.model).isSome = true) ?_
    (List.forall_mem_map.mp before core mem) request
  exact fun request known => Kernel.isSome_object?_perform known request

end Registered

/-- The machine has joined its kernel, which has an object for each of its cores and has booted. -/
structure Settled (session : Session) : Prop where
  coupled : Coupled session
  incorporated : session.processor.isIncorporated = true
  registered : Registered session

namespace Settled

theorem perform (h : Settled session) (request : Request) :
    Settled (session.perform request) where
  coupled := h.coupled.perform request
  incorporated := session.isIncorporated_perform h.incorporated request
  registered := h.registered.perform request

/-- Every other configuration can take over. -/
theorem exchangeable (h : Settled session)
    (known : session.processor.configuration? name = some target)
    (other : name ≠ session.processor.active) :
    session.kernel.Exchangeable (session.processor.handOver target) :=
  h.coupled.exchangeable known other
    (h.registered.models (Processor.configuration?_eq_some known).1)

/-- A switch to another configuration is granted as long as no refusal is armed. -/
theorem switchTo_granted (h : Settled session) (unarmed : session.kernel.armedSwap = none)
    (known : session.machine.target name ∈ session.processor.configurations.map (·.name))
    (other : session.machine.target name ≠ session.processor.active) :
    ∃ kernel, session.machine.switchTo name session.kernel =
        (.ok (), session.machine.switched name, kernel) ∧
      Settled { machine := session.machine.switched name, kernel } ∧
      kernel.swapRecord = (none, session.kernel.swaps + 1) := by
  obtain ⟨target, found⟩ := Processor.exists_configuration?_iff.mpr known
  have free : session.processor.switchError? (session.machine.target name) = none := by
    rw [h.coupled.wf.switchError?_of_known found, h.incorporated, if_neg other]
    rfl
  have swapped := Kernel.swap_granted unarmed h.coupled.booted (h.exchangeable found other)
  have switched : session.machine.switchTo name session.kernel = _ :=
    Machine.switchTo_of_swap free found swapped
  have settled := h.perform (.move (.switchTo name))
  simp only [Session.perform, Move.perform, switched] at settled
  refine ⟨_, switched, settled, Prod.ext ?_ rfl⟩
  exact (Kernel.armedSwap_exchange _ _).trans unarmed

/-- A switch to no other configuration is refused, whatever the board. -/
theorem switchTo_refused (h : Settled session)
    (stays : session.machine.target name ∉ session.processor.configurations.map (·.name) ∨
      session.machine.target name = session.processor.active) (board : Kernel) :
    session.machine.switchTo name board =
      (.error (if session.machine.target name ∈ session.processor.configurations.map (·.name)
          then .alreadyActive (session.machine.target name)
          else .unknownConfiguration (session.machine.target name)),
        session.machine, board) := by
  refine Machine.switchTo_of_switchError? ?_ board
  cases found : session.processor.configuration? (session.machine.target name) with
  | none =>
    rw [if_neg (Processor.exists_configuration?_iff.not.mp (by simp [found]))]
    simp [Processor.switchError?, h.incorporated, found]
  | some target =>
    have known := Processor.exists_configuration?_iff.mp ⟨target, found⟩
    have active := stays.resolve_left (not_not_intro known)
    rw [if_pos known, h.coupled.wf.switchError?_of_known found, h.incorporated, if_pos active]
    rfl

section Pair

variable {pair : PairProcessor} {kernel : Kernel}
  (h : Settled { machine := .pair pair, kernel }) (sided : pair.Sided)

include h sided

/-- A toggle hands every slot over to the other side, if the kernel grants the swap. -/
theorem exists_toggle :
    ∃ pairs, kernel.Exchangeable pairs ∧
      ∀ {board board' : Kernel} {answer : Except BoardError Unit},
        board.swap pairs = (answer, board') →
        pair.toggle board =
          (answer.mapError .board, if answer.isOk then pair.toggled else pair, board') := by
  obtain ⟨target, known⟩ := sided.exists_configuration? (!pair.onStart)
  rw [← pair.otherSide_eq] at known
  have free : pair.processor.switchError? pair.otherSide = none := by
    have incorporated : pair.processor.isIncorporated = true := h.incorporated
    rw [sided.switchError?_otherSide h.coupled.wf, incorporated]
    rfl
  obtain ⟨-, _, -, other, -⟩ := Processor.exists_of_switchError?_eq_none free
  exact ⟨pair.processor.handOver target, h.exchangeable known other,
    fun swapped => PairProcessor.toggle_of_swap free known swapped⟩

/-- A toggle is granted as long as no refusal is armed. -/
theorem toggle_granted (unarmed : kernel.armedSwap = none) :
    ∃ kernel', pair.toggle kernel = (.ok (), pair.toggled, kernel') ∧
      Settled { machine := .pair pair.toggled, kernel := kernel' } ∧ kernel'.armedSwap = none := by
  obtain ⟨pairs, exchangeable, toggle⟩ := h.exists_toggle sided
  have toggled : pair.toggle kernel = (.ok (), pair.toggled, kernel.exchange pairs) :=
    toggle (Kernel.swap_granted unarmed h.coupled.booted exchangeable)
  have settled := h.perform (.move .toggle)
  simp only [Session.perform, Move.perform, Machine.toggle, Machine.switchTo, toggled] at settled
  exact ⟨_, toggled, settled, (Kernel.armedSwap_exchange pairs kernel).trans unarmed⟩

/-- An armed refusal answers the next toggle, and is gone. -/
theorem toggle_refused (unarmed : kernel.armedSwap = none) (reason : String) :
    pair.toggle (kernel.failNextSwap reason) =
      (.error (.board (.swapFailed reason)), pair, kernel) := by
  obtain ⟨pairs, -, toggle⟩ := h.exists_toggle sided
  exact toggle (Kernel.swap_failNextSwap unarmed reason pairs)

end Pair

end Settled

/-! ## Settling -/

/-- An incorporation asks for no swap. -/
theorem swapRecord_incorporate (machine : Machine) (kernel : Kernel) :
    (machine.incorporate kernel).2.2.swapRecord = kernel.swapRecord := by
  refine machine.incorporate_keeps (P := fun next : Kernel => next.swapRecord = kernel.swapRecord)
    id ?_ (fun _ => id) rfl
  exact fun model timeline =>
    (Kernel.swapRecord_perform _ (.assignTimeline model timeline) rfl rfl).trans

/-- The active models boot on a kernel that has not booted. -/
theorem coupled_boot (wf : session.processor.WF) (registered : Registered session)
    (reachable : session.kernel.Reachable) (unbooted : session.kernel.booted = false) :
    ∃ kernel, session.kernel.boot session.processor.models = (.ok (), kernel) ∧
      Coupled { session with kernel } ∧ Registered { session with kernel } ∧
      kernel.swapRecord = session.kernel.swapRecord := by
  have booted : session.kernel.boot session.processor.models = _ :=
    Kernel.boot_granted reachable.books unbooted (registered.active wf)
  have registered := registered.perform (.kernel (.boot session.processor.models) rfl)
  simp only [perform, Kernel.perform, booted] at registered
  exact ⟨_, booted, .boot wf reachable booted, registered,
    Kernel.swapRecord_startAll _ session.kernel⟩

/-- A boot settles a machine that has joined a kernel which has not booted. -/
theorem settled_boot (wf : session.processor.WF)
    (incorporated : session.processor.isIncorporated = true) (registered : Registered session)
    (reachable : session.kernel.Reachable) (unbooted : session.kernel.booted = false) :
    ∃ kernel, session.kernel.boot session.processor.models = (.ok (), kernel) ∧
      Settled { session with kernel } ∧ kernel.swapRecord = session.kernel.swapRecord := by
  obtain ⟨kernel, booted, coupled, registered, record⟩ :=
    coupled_boot wf registered reachable unbooted
  exact ⟨kernel, booted, ⟨coupled, incorporated, registered⟩, record⟩

/-- A machine that joins a kernel with its models, before the boot, settles with the boot. -/
theorem settled_of_incorporate (wf : session.processor.WF) (registered : Registered session)
    (reachable : session.kernel.Reachable) (unbooted : session.kernel.booted = false)
    {machine : Machine} {joined : Kernel}
    (granted : session.machine.incorporate session.kernel = (.ok (), machine, joined)) :
    ∃ kernel, joined.boot machine.processor.models = (.ok (), kernel) ∧
      Settled { machine, kernel } ∧ kernel.swapRecord = session.kernel.swapRecord := by
  have performed : session.perform .incorporate = { machine, kernel := joined } := by
    rw [perform, granted]
  have wf := wf_perform wf .incorporate
  have registered := registered.perform .incorporate
  have reachable := reachable_perform reachable .incorporate
  have unbooted := session.sameWork_incorporate.booted.trans unbooted
  rw [performed] at wf registered reachable unbooted
  obtain ⟨kernel, booted, settled, record⟩ := settled_boot wf
    (Machine.isIncorporated_of_incorporate granted) registered reachable unbooted
  have unswapped := swapRecord_incorporate session.machine session.kernel
  rw [granted] at unswapped
  exact ⟨kernel, booted, settled, record.trans unswapped⟩

/-- A machine joins a kernel that has not booted, if the kernel has its models and no model is on an
isolated timeline, and then its active models boot. -/
theorem exists_settled (wf : session.processor.WF) (alone : session.processor.timelines = none)
    (fits : (session.processor.allCores.filter (·.accelerated)).length < Word.bound32)
    (registered : Registered session) (reachable : session.kernel.Reachable)
    (unbooted : session.kernel.booted = false)
    (free : ∀ model timeline, session.kernel.timeline? model = some timeline →
      timeline.isShared = true) :
    ∃ machine joined kernel,
      session.machine.incorporate session.kernel = (.ok (), machine, joined) ∧
      joined.boot machine.processor.models = (.ok (), kernel) ∧
      Settled { machine, kernel } ∧ kernel.swapRecord = session.kernel.swapRecord := by
  obtain ⟨machine, joined, granted⟩ :=
    session.machine.incorporate_granted alone fits registered free
  obtain ⟨kernel, booted, settled, record⟩ :=
    settled_of_incorporate wf registered reachable unbooted granted
  exact ⟨machine, joined, kernel, granted, booted, settled, record⟩

end Session

end Polycore
