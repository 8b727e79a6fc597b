import Polycore.Proofs.Kernel.Exchange
import Polycore.Proofs.Kernel.Horizon

/-!
# Drift

Isolated timelines run ahead of the shared one by the jitter of each quantum, until something brings
the clocks into step again (`Request.levels`). `drift` adds up what the jitter allows since then. As
long as the models were placed and started before any time was simulated, no timeline is further
ahead than that, and none that a running model stands on lags behind (`Kernel.Drifted`). The main
statement is `drift_bounded`.
-/

namespace Polycore.Kernel

variable {kernel next : Kernel} {model : ModelId} {timeline : Timeline} {bound : Nat}

/-- Asks for models to be started or to be put on a timeline. -/
def Request.isSettling : Request → Bool
  | boot _ => true
  | assignTimeline .. => true
  | _ => false

/-- Brings the clocks of a kernel into step: a synchronization does, and a swap that is granted. -/
def Request.levels (kernel : Kernel) : Request → Bool
  | synchronize => true
  | swap pairs => (kernel.swap pairs).1.isOk
  | _ => false

/-- How much further a request lets an isolated timeline run ahead of the shared one. -/
def Request.jitter : Request → Nat
  | runQuantum ticks _ => ticks / 16
  | _ => 0

/-- What the jitter of all requests allows since the clocks were brought into step, where `before`
is what it allowed before these requests. -/
def drift (before : Nat) (kernel : Kernel) : List Request → Nat
  | [] => before
  | request :: rest =>
    drift (if request.levels kernel then 0 else before + request.jitter) (kernel.perform request)
      rest

/-- How far the clocks of a kernel may be apart. -/
structure Drifted (bound : Nat) (kernel : Kernel) : Prop where
  ahead : ∀ timeline tick, kernel.clocks.tick? timeline = some tick → tick ≤ kernel.tick + bound
  /-- the timeline of an idle model may lag behind, but not that of a running one -/
  abreast : ∀ model, kernel.isRunning model = true → ∀ timeline,
    kernel.timeline? model = some timeline → ∀ tick, kernel.clocks.tick? timeline = some tick →
      kernel.tick ≤ tick

namespace Drifted

/-- Clocks in step have not drifted at all. -/
theorem of_synchronized {clocks : Clocks} (h : kernel.clocks = clocks.synchronize) :
    Drifted 0 kernel := by
  have level {timeline : Timeline} {tick : Nat} (reads : kernel.clocks.tick? timeline = some tick) :
      tick = kernel.tick := by
    rw [h, Clocks.tick?_synchronize] at reads
    obtain ⟨_, -, rfl⟩ := Option.map_eq_some_iff.mp reads
    rw [Kernel.tick, h]
    rfl
  exact ⟨fun _ _ reads => Nat.le_of_eq (level reads),
    fun _ _ _ _ _ reads => Nat.le_of_eq (level reads).symm⟩

/-- No time has been simulated yet. -/
theorem of_fresh (h : kernel.Fresh) : Drifted 0 kernel where
  ahead timeline tick reads := by
    rw [h.tick_eq_zero, Nat.add_zero, ← h.horizon_eq_zero]
    exact Clocks.le_horizon reads
  abreast _ _ _ _ tick _ := by
    rw [h.tick_eq_zero]
    exact Nat.zero_le tick

theorem of_clocks (h : Drifted bound kernel) (clocks : next.clocks = kernel.clocks)
    (stands : ∀ model, next.isRunning model = true →
      kernel.isRunning model = true ∧ next.timeline? model = kernel.timeline? model) :
    Drifted bound next where
  ahead := by
    rw [tick, clocks]
    exact h.ahead
  abreast model runs timeline known tick reads := by
    obtain ⟨ran, same⟩ := stands model runs
    rw [Kernel.tick, clocks]
    exact h.abreast model ran timeline (same ▸ known) tick (clocks ▸ reads)

theorem runQuantum (h : Drifted bound kernel) (arranged : kernel.Arranged) (ticks : Nat)
    (fpFraction : Float) :
    Drifted (bound + ticks / 16) (kernel.runQuantum ticks fpFraction).2 where
  ahead timeline tick reads := by
    obtain ⟨before, known, moved, -⟩ := arranged.moved_runQuantum ticks fpFraction reads
    have ahead := h.ahead timeline before known
    rw [tick_runQuantum]
    omega
  abreast model runs timeline known tick reads := by
    rw [isRunning_runQuantum] at runs
    rw [timeline?_eq_places, places_runQuantum, ← timeline?_eq_places] at known
    obtain ⟨before, hbefore, -, moved⟩ := arranged.moved_runQuantum ticks fpFraction reads
    have abreast := h.abreast model runs timeline known before hbefore
    rw [tick_runQuantum]
    exact (Nat.add_le_add_right abreast ticks).trans (moved model runs known)

theorem instantiate (h : Drifted bound kernel) (descriptor : CoreModel) :
    Drifted bound (kernel.instantiate descriptor).2 := by
  refine h.of_clocks rfl fun model runs => ?_
  rw [(SameWork.instantiate kernel descriptor).isRunning] at runs
  refine ⟨runs, ?_⟩
  rcases kernel.timeline?_instantiate_cases descriptor model with same | ⟨unknown, -⟩
  · exact same
  · have registered := isSome_object?_of_isRunning runs
    rw [timeline?, Option.map_eq_none_iff] at unknown
    rw [unknown] at registered
    cases registered

/-- What one request adds. -/
theorem perform (h : Drifted bound kernel) (arranged : kernel.Arranged) {request : Request}
    (settled : request.isSettling = false) :
    Drifted (if request.levels kernel then 0 else bound + request.jitter)
      (kernel.perform request) := by
  cases request with
  | boot | assignTimeline => cases settled
  | instantiate descriptor => exact h.instantiate descriptor
  | runQuantum ticks fpFraction => exact h.runQuantum arranged ticks fpFraction
  | synchronize => exact of_synchronized rfl
  | failNextSwap | enableHostAcceleration | setMemMode =>
    exact h.of_clocks rfl fun _ runs => ⟨runs, rfl⟩
  | swap pairs =>
    rw [Request.levels, Kernel.perform]
    rcases kernel.swap_cases pairs with ⟨_, _, refused⟩ | ⟨_, _, refused⟩ | ⟨_, _, _, granted⟩
    · rw [refused]
      exact h.of_clocks rfl fun _ runs => ⟨runs, rfl⟩
    · rw [refused]
      exact h
    · -- the clocks are brought into step before the idle models take over
      rw [granted]
      exact of_synchronized (kernel.clocks_exchange pairs)

theorem foldl_perform (h : Drifted bound kernel) (arranged : kernel.Arranged)
    {requests : List Request} (settled : ∀ request ∈ requests, request.isSettling = false) :
    Drifted (drift bound kernel requests) (requests.foldl Kernel.perform kernel) := by
  induction requests generalizing kernel bound with
  | nil => exact h
  | cons request rest ih =>
    rw [List.forall_mem_cons] at settled
    exact ih (h.perform arranged settled.1) (arranged.perform request) settled.2

end Drifted

/-- Without quanta nothing drifts. -/
theorem drift_append_of_timeless {setup : List Request}
    (timeless : ∀ request ∈ setup, request.isQuantum = false) (kernel : Kernel)
    (later : List Request) :
    drift 0 kernel (setup ++ later) = drift 0 (setup.foldl perform kernel) later := by
  induction setup generalizing kernel with
  | nil => rfl
  | cons request rest ih =>
    rw [List.forall_mem_cons] at timeless
    have none : request.jitter = 0 := by
      cases request with
      | runQuantum => cases timeless.1
      | _ => rfl
    rw [List.cons_append, drift, none, ite_self, ih timeless.2, List.foldl_cons]

/-- As long as models are started and put on timelines before any time is simulated, no timeline
is further ahead of the shared one than the jitter of all quanta since the last synchronization or
granted swap, and the timeline of a model that executes never lags behind it, whatever else is asked
of a kernel and whatever is drawn. -/
theorem drift_bounded (seed : UInt64) (ruby : Bool) (setup later : List Request)
    (timeless : ∀ request ∈ setup, request.isQuantum = false)
    (settled : ∀ request ∈ later, request.isSettling = false) :
    let kernel := (setup ++ later).foldl perform (create seed ruby)
    (∀ timeline tick, kernel.clocks.tick? timeline = some tick →
      tick ≤ kernel.tick + drift 0 (create seed ruby) (setup ++ later)) ∧
    ∀ model, kernel.isRunning model = true →
      ∃ timeline tick, kernel.timeline? model = some timeline ∧
        kernel.clocks.tick? timeline = some tick ∧ kernel.tick ≤ tick := by
  intro kernel
  have ready : (setup.foldl perform (create seed ruby)).Fresh :=
    ReachableBy.foldl_perform (.create seed ruby) timeless
  have drifted : Drifted (drift 0 (create seed ruby) (setup ++ later)) kernel := by
    simp only [kernel, List.foldl_append]
    rw [drift_append_of_timeless timeless]
    exact (Drifted.of_fresh ready).foldl_perform ready.arranged settled
  have arranged : kernel.Arranged := (reachable_foldl_perform _ (.create seed ruby)).arranged
  refine ⟨drifted.ahead, ?_⟩
  intro model runs
  obtain ⟨object, found⟩ := Option.isSome_iff_exists.mp (isSome_object?_of_isRunning runs)
  have stands : kernel.timeline? model = some object.timeline := by rw [timeline?, found]; rfl
  obtain ⟨tick, known⟩ := arranged.exists_tick? stands
  exact ⟨object.timeline, tick, stands, known, drifted.abreast model runs _ stands tick known⟩

/-- An object on its own timeline runs for two quanta, and only the second counts, for the clocks
are brought into step in between. -/
theorem drift_bounded_since_synchronization :
    let setup : List Request := [.instantiate .bigKvm, .assignTimeline ⟨0⟩ ⟨1⟩, .boot [⟨0⟩]]
    let later : List Request := [.runQuantum 160 0.5, .synchronize, .runQuantum 32 0.5]
    let kernel := (setup ++ later).foldl perform (create 7 false)
    (∀ request ∈ setup, request.isQuantum = false) ∧
      (∀ request ∈ later, request.isSettling = false) ∧
      kernel.isRunning ⟨0⟩ = true ∧ kernel.timeline? ⟨0⟩ = some ⟨1⟩ ∧
      (∀ timeline tick, kernel.clocks.tick? timeline = some tick → tick ≤ kernel.tick + 2) ∧
      ∃ tick, kernel.clocks.tick? ⟨1⟩ = some tick ∧ kernel.tick ≤ tick := by
  intro setup later kernel
  have timeless : ∀ request ∈ setup, request.isQuantum = false := by simp [setup, Request.isQuantum]
  have settled : ∀ request ∈ later, request.isSettling = false := by
    simp [later, Request.isSettling]
  have ran (ready : Kernel) : (later.foldl perform ready).isRunning ⟨0⟩ = ready.isRunning ⟨0⟩ := by
    let first := (ready.runQuantum 160 0.5).2
    have level : SameWork first (first.perform .synchronize) := sameWork_perform first rfl
    refine (isRunning_runQuantum (first.perform .synchronize) 32 0.5 ⟨0⟩).trans ?_
    rw [level.isRunning]
    exact isRunning_runQuantum ready 160 0.5 ⟨0⟩
  have stood (ready : Kernel) :
      (later.foldl perform ready).timeline? ⟨0⟩ = ready.timeline? ⟨0⟩ := by
    simp only [later, List.foldl_cons, List.foldl_nil, timeline?_eq_places]
    rw [places_perform _ rfl, places_perform _ rfl, places_perform _ rfl]
  have folded : kernel = later.foldl perform (setup.foldl perform (create 7 false)) :=
    List.foldl_append
  have runs : kernel.isRunning ⟨0⟩ = true := by
    rw [folded, ran]
    rfl
  have stands : kernel.timeline? ⟨0⟩ = some ⟨1⟩ := by
    rw [folded, stood]
    rfl
  obtain ⟨ahead, abreast⟩ := drift_bounded 7 false setup later timeless settled
  obtain ⟨timeline, tick, known, reads, least⟩ := abreast ⟨0⟩ runs
  obtain rfl := Option.some.inj (stands.symm.trans known)
  exact ⟨timeless, settled, runs, stands, ahead, tick, reads, least⟩

end Polycore.Kernel
