import Polycore.Proofs.Kernel.Requests
import Polycore.Proofs.Lookup

/-!
# Clocks in step

The horizon is the furthest of all ticks (`Clocks.horizon_le_iff`), so clocks that were brought into
step stay there when they are brought into step again. Seen timeline by timeline (`Clocks.tick?`),
no operation takes a timeline out of use or sets one back (`Clocks.Precedes`). A kernel that has
simulated no time has not moved any clock (`Kernel.Fresh.tick_eq_zero`).
-/

namespace Polycore

namespace Clocks

theorem foldl_max_le_iff {ticks : List Nat} {start bound : Nat} :
    ticks.foldl max start ≤ bound ↔ start ≤ bound ∧ ∀ tick ∈ ticks, tick ≤ bound := by
  induction ticks generalizing start with
  | nil => simp
  | cons tick rest ih => rw [List.foldl_cons, ih, Nat.max_le, List.forall_mem_cons, and_assoc]

theorem horizon_le_iff {clocks : Clocks} {bound : Nat} :
    clocks.horizon ≤ bound ↔
      clocks.shared ≤ bound ∧ ∀ entry ∈ clocks.isolated, entry.2 ≤ bound := by
  rw [horizon, foldl_max_le_iff, List.forall_mem_map]

@[simp] theorem horizon_synchronize (clocks : Clocks) :
    clocks.synchronize.horizon = clocks.horizon := by
  refine Nat.le_antisymm (horizon_le_iff.mpr ⟨Nat.le_refl _, ?_⟩)
    clocks.synchronize.shared_le_horizon
  exact List.forall_mem_map.mpr fun _ _ => Nat.le_refl _

theorem synchronize_synchronize (clocks : Clocks) :
    clocks.synchronize.synchronize = clocks.synchronize := by
  rw [synchronize, horizon_synchronize]
  simp [synchronize]

theorem horizon_ensure_le {clocks : Clocks} {bound : Nat} (h : clocks.horizon ≤ bound)
    (timeline : Timeline) : (clocks.ensure timeline).horizon ≤ bound := by
  obtain ⟨shared, isolated⟩ := horizon_le_iff.mp h
  unfold ensure
  split
  · exact h
  · refine horizon_le_iff.mpr ⟨shared, List.forall_mem_append.mpr ⟨isolated, ?_⟩⟩
    exact List.forall_mem_singleton.mpr shared

variable {clocks later last : Clocks} {timeline other : Timeline}

/-! ## The tick of a timeline -/

theorem tick?_of_isShared (h : timeline.isShared = true) :
    clocks.tick? timeline = some clocks.shared :=
  if_pos h

theorem tick?_of_isolated (h : timeline.isShared = false) :
    clocks.tick? timeline = clocks.isolated.lookup timeline := by
  simp [tick?, h]

theorem lookup_concat (entries : List (Timeline × Nat)) (timeline : Timeline) (tick : Nat)
    (other : Timeline) :
    (entries ++ [(timeline, tick)]).lookup other =
      (entries.lookup other).or (if other = timeline then some tick else none) := by
  by_cases same : other = timeline
  · simp [List.lookup_append, same]
  · simp [List.lookup_append, List.lookup_cons, beq_false_of_ne same, same]

theorem tick?_synchronize (clocks : Clocks) (timeline : Timeline) :
    clocks.synchronize.tick? timeline = (clocks.tick? timeline).map fun _ => clocks.horizon := by
  cases h : timeline.isShared with
  | true => simp [tick?_of_isShared h, synchronize]
  | false =>
    rw [tick?_of_isolated h, tick?_of_isolated h]
    exact lookup_map_snd clocks.isolated (fun _ _ => clocks.horizon) timeline

theorem ne_of_isShared (h : other.isShared = true) (isolated : timeline.isShared = false) :
    other ≠ timeline := by
  rintro rfl
  simp [h] at isolated

theorem tick?_ensure (clocks : Clocks) (timeline other : Timeline) :
    (clocks.ensure timeline).tick? other =
      if other = timeline then some ((clocks.tick? timeline).getD clocks.shared)
      else clocks.tick? other := by
  unfold ensure
  split
  · next used =>
    obtain ⟨tick, htick⟩ := Option.isSome_iff_exists.mp used
    split
    · next same => simp [same, htick]
    · rfl
  · next unused =>
    rw [Option.not_isSome_iff_eq_none] at unused
    have isolated : timeline.isShared = false := by
      by_contra h
      rw [Bool.not_eq_false] at h
      simp [tick?_of_isShared h] at unused
    cases h : other.isShared with
    | true => simp [tick?_of_isShared h, ne_of_isShared h isolated]
    | false =>
      rw [tick?_of_isolated isolated] at unused
      rw [tick?_of_isolated h, tick?_of_isolated h, tick?_of_isolated isolated, lookup_concat]
      split
      · next same => simp [same, unused]
      · simp

theorem tick?_advance (isolated : timeline.isShared = false) (ticks : Nat) (clocks : Clocks)
    (other : Timeline) :
    (clocks.advance timeline ticks).tick? other =
      if other = timeline then some ((clocks.tick? timeline).getD 0 + ticks)
      else clocks.tick? other := by
  cases h : other.isShared with
  | true => simp [tick?_of_isShared h, ne_of_isShared h isolated, advance]
  | false =>
    rw [tick?_of_isolated h, tick?_of_isolated h, tick?_of_isolated isolated]
    unfold advance
    dsimp only
    split
    · next used =>
      obtain ⟨tick, htick⟩ := Option.isSome_iff_exists.mp used
      rw [lookup_map_snd clocks.isolated
        (fun entry tick => if entry = timeline then tick + ticks else tick)]
      split
      · next same => simp [same, htick]
      · simp
    · next unused =>
      rw [Option.not_isSome_iff_eq_none] at unused
      rw [lookup_concat]
      split
      · next same => simp [same, unused]
      · simp

theorem tick?_advanceShared (ticks : Nat) (clocks : Clocks) (timeline : Timeline) :
    (clocks.advanceShared ticks).tick? timeline =
      (clocks.tick? timeline).map fun tick =>
        if timeline.isShared then tick + ticks else tick := by
  cases h : timeline.isShared with
  | true => simp [tick?_of_isShared h, advanceShared]
  | false =>
    rw [tick?_of_isolated h, tick?_of_isolated h]
    simp [advanceShared]

theorem le_horizon {tick : Nat} (h : clocks.tick? timeline = some tick) :
    tick ≤ clocks.horizon := by
  obtain ⟨shared, isolated⟩ := horizon_le_iff.mp (Nat.le_refl clocks.horizon)
  cases kind : timeline.isShared with
  | true =>
    rw [tick?_of_isShared kind, Option.some.injEq] at h
    exact h ▸ shared
  | false =>
    rw [tick?_of_isolated kind] at h
    exact isolated _ (mem_of_lookup h)

/-- Every timeline in use stays in use, and none goes back. -/
def Precedes (clocks later : Clocks) : Prop :=
  ∀ timeline tick, clocks.tick? timeline = some tick →
    ∃ tick', later.tick? timeline = some tick' ∧ tick ≤ tick'

namespace Precedes

theorem refl (clocks : Clocks) : clocks.Precedes clocks :=
  fun _ tick h => ⟨tick, h, Nat.le_refl _⟩

theorem trans (first : clocks.Precedes later) (second : later.Precedes last) :
    clocks.Precedes last := by
  intro timeline tick h
  obtain ⟨tick', h', le⟩ := first timeline tick h
  obtain ⟨tick'', h'', le'⟩ := second timeline tick' h'
  exact ⟨tick'', h'', Nat.le_trans le le'⟩

theorem synchronize (clocks : Clocks) : clocks.Precedes clocks.synchronize := by
  intro timeline tick h
  refine ⟨clocks.horizon, ?_, le_horizon h⟩
  rw [tick?_synchronize, h, Option.map_some]

theorem ensure (clocks : Clocks) (timeline : Timeline) :
    clocks.Precedes (clocks.ensure timeline) := by
  intro other tick h
  refine ⟨tick, ?_, Nat.le_refl _⟩
  rw [tick?_ensure]
  split
  · next same => simp [← same, h]
  · exact h

theorem advance (isolated : timeline.isShared = false) (ticks : Nat) (clocks : Clocks) :
    clocks.Precedes (clocks.advance timeline ticks) := by
  intro other tick h
  rw [tick?_advance isolated]
  split
  · next same =>
    refine ⟨tick + ticks, ?_, Nat.le_add_right _ _⟩
    simp [← same, h]
  · exact ⟨tick, h, Nat.le_refl _⟩

theorem advanceShared (ticks : Nat) (clocks : Clocks) :
    clocks.Precedes (clocks.advanceShared ticks) := by
  intro timeline tick h
  rw [tick?_advanceShared, h, Option.map_some]
  refine ⟨_, rfl, ?_⟩
  split
  · exact Nat.le_add_right _ _
  · exact Nat.le_refl _

end Precedes

/-! ## The timeline that is furthest ahead -/

/-- Every timeline in use has one tick: no isolated one is listed twice, and the shared one is not
listed with them. -/
structure Keyed (clocks : Clocks) : Prop where
  distinct : (clocks.isolated.map (·.1)).Nodup
  isolated : ∀ timeline ∈ clocks.isolated.map (·.1), timeline.isShared = false

namespace Keyed

theorem of_keys (h : clocks.Keyed)
    (same : later.isolated.map (·.1) = clocks.isolated.map (·.1)) : later.Keyed where
  distinct := same ▸ h.distinct
  isolated := same ▸ h.isolated

theorem concat (h : clocks.Keyed) (isolated : timeline.isShared = false)
    (unused : clocks.tick? timeline = none)
    (same : later.isolated.map (·.1) = clocks.isolated.map (·.1) ++ [timeline]) : later.Keyed := by
  have unlisted : timeline ∉ clocks.isolated.map (·.1) := by
    intro listed
    obtain ⟨entry, mem, rfl⟩ := List.mem_map.mp listed
    rw [tick?_of_isolated isolated, lookup_of_mem h.distinct mem] at unused
    cases unused
  refine ⟨?_, ?_⟩
  · rw [same]
    exact List.nodup_append'.mpr
      ⟨h.distinct, List.nodup_singleton _, List.disjoint_singleton.mpr unlisted⟩
  · rw [same]
    exact List.forall_mem_append.mpr ⟨h.isolated, List.forall_mem_singleton.mpr isolated⟩

theorem synchronize (h : clocks.Keyed) : clocks.synchronize.Keyed := by
  refine h.of_keys ?_
  rw [Clocks.synchronize, List.map_map]
  rfl

theorem ensure (h : clocks.Keyed) (timeline : Timeline) : (clocks.ensure timeline).Keyed := by
  unfold Clocks.ensure
  split
  · exact h
  · next unused =>
    rw [Option.not_isSome_iff_eq_none] at unused
    refine h.concat ?_ unused (List.map_append ..)
    by_contra shared
    rw [tick?_of_isShared (Bool.of_not_eq_false shared)] at unused
    cases unused

theorem advance (h : clocks.Keyed) (isolated : timeline.isShared = false) (ticks : Nat) :
    (clocks.advance timeline ticks).Keyed := by
  cases used : clocks.isolated.lookup timeline with
  | some tick =>
    refine h.of_keys ?_
    simp [Clocks.advance, used, Function.comp_def]
  | none =>
    refine h.concat isolated ((tick?_of_isolated isolated).trans used) ?_
    simp [Clocks.advance, used]

theorem advanceShared (h : clocks.Keyed) (ticks : Nat) : (clocks.advanceShared ticks).Keyed :=
  h.of_keys rfl

end Keyed

theorem foldl_max_eq_or_mem (ticks : List Nat) (start : Nat) :
    ticks.foldl max start = start ∨ ticks.foldl max start ∈ ticks := by
  induction ticks generalizing start with
  | nil => exact .inl rfl
  | cons tick rest ih =>
    rw [List.foldl_cons]
    rcases ih (max start tick) with same | later
    · rw [same]
      rcases Nat.le_total start tick with le | le
      · exact .inr (by simp [Nat.max_eq_right le])
      · exact .inl (Nat.max_eq_left le)
    · exact .inr (List.mem_cons_of_mem _ later)

/-- Some timeline stands at the horizon. -/
theorem Keyed.exists_tick?_eq_horizon (h : clocks.Keyed) :
    ∃ timeline, clocks.tick? timeline = some clocks.horizon := by
  rcases foldl_max_eq_or_mem (clocks.isolated.map (·.2)) clocks.shared with shared | isolated
  · exact ⟨.shared, congrArg some shared.symm⟩
  · obtain ⟨entry, mem, same⟩ := List.mem_map.mp isolated
    refine ⟨entry.1, ?_⟩
    rw [tick?_of_isolated (h.isolated entry.1 (List.mem_map_of_mem mem)),
      lookup_of_mem h.distinct mem, same]
    rfl

end Clocks

namespace Kernel

variable {kernel : Kernel}

/-- A swap moves the clocks at most into step. -/
theorem clocks_swap (kernel : Kernel) (pairs : List (ModelId × ModelId)) :
    (kernel.swap pairs).2.clocks = kernel.clocks ∨
      (kernel.swap pairs).2.clocks = kernel.clocks.synchronize := by
  rcases kernel.swap_cases pairs with ⟨_, _, h⟩ | ⟨_, _, h⟩ | ⟨_, _, _, h⟩
  · exact .inl (by rw [h])
  · exact .inl (by rw [h])
  · refine .inr ?_
    rw [h]
    exact clocks_foldl_handOver pairs kernel.synchronize.2

theorem clocks_boot (kernel : Kernel) (active : List ModelId) :
    (kernel.boot active).2.clocks = kernel.clocks := by
  rcases kernel.boot_cases active with ⟨_, h⟩ | ⟨_, _, h⟩
  · rw [h]
  · rw [h]
    refine view_foldl (·.clocks) (fun _ _ => ?_) active kernel
    rfl

/-- No request but a quantum moves the horizon. -/
theorem horizon_perform_le {bound : Nat} (h : kernel.clocks.horizon ≤ bound) {request : Request}
    (timeless : request.isQuantum = false) : (kernel.perform request).clocks.horizon ≤ bound := by
  cases request with
  | runQuantum => cases timeless
  | boot active =>
    rw [perform, clocks_boot]
    exact h
  | assignTimeline model timeline =>
    simp only [perform, assignTimeline]
    split
    · exact h
    · split
      · exact h
      · exact Clocks.horizon_ensure_le h timeline
  | swap pairs =>
    rw [perform]
    rcases kernel.clocks_swap pairs with same | synchronized
    · rw [same]
      exact h
    · rw [synchronized, Clocks.horizon_synchronize]
      exact h
  | synchronize =>
    rw [perform]
    exact (Clocks.horizon_synchronize kernel.clocks).symm ▸ h
  | instantiate | failNextSwap | enableHostAcceleration | setMemMode => exact h

theorem Fresh.horizon_eq_zero (h : kernel.Fresh) : kernel.clocks.horizon = 0 := by
  refine Nat.le_zero.mp ?_
  induction h with
  | create seed ruby => exact Nat.le_refl _
  | perform request timeless _ ih => exact horizon_perform_le ih timeless

theorem Fresh.tick_eq_zero (h : kernel.Fresh) : kernel.tick = 0 :=
  Nat.le_zero.mp (h.horizon_eq_zero ▸ kernel.clocks.shared_le_horizon)

end Kernel

end Polycore
