import Polycore.Proofs.Kernel.Advances

/-!
# How far a quantum runs ahead

A quantum moves no timeline by more than its ticks and a sixteenth of them, and by no less than its
ticks if a model runs on it (`Kernel.Arranged.moved_runQuantum`). So it moves the furthest timeline
by no more either (`Kernel.horizon_runQuantum_le`).
-/

namespace Polycore.Kernel

variable {kernel : Kernel} {timeline : Timeline}

theorem Arranged.moved_runQuantum (arranged : kernel.Arranged) (ticks : Nat) (fpFraction : Float)
    {later : Nat}
    (reads : (kernel.runQuantum ticks fpFraction).2.clocks.tick? timeline = some later) :
    ∃ before, kernel.clocks.tick? timeline = some before ∧
      later ≤ before + (ticks + ticks / 16) ∧
      ∀ model, kernel.isRunning model = true → kernel.timeline? model = some timeline →
        before + ticks ≤ later := by
  obtain ⟨order, random, perm, same⟩ := kernel.exists_runQuantum_eq ticks fpFraction
  obtain ⟨advance, ran, ranAll, allowed, outcome⟩ :=
    exists_ran_quantumIn arranged perm random ticks fpFraction
  rw [same, outcome, Clocks.tick?_advanceShared] at reads
  obtain ⟨tick, hran, rfl⟩ := Option.map_eq_some_iff.mp reads
  by_cases taken : timeline.isShared = false ∧
      ∃ model ∈ order, kernel.timeline? model = some timeline
  · obtain ⟨isolated, model, mem, stands⟩ := taken
    obtain ⟨before, known⟩ := arranged.exists_tick? stands
    have own := ranAll.own model mem timeline stands isolated
    rw [hran, known, Option.getD_some, Option.some.injEq] at own
    have permitted := allowed model mem timeline stands
    rw [if_neg (Bool.eq_false_iff.mp isolated), own]
    exact ⟨before, known, Nat.add_le_add_left permitted.le_add before,
      fun _ _ _ => Nat.add_le_add_left permitted.le before⟩
  · have still := ranAll.still timeline fun isolated model mem stands =>
      taken ⟨isolated, model, mem, stands⟩
    refine ⟨tick, still ▸ hran, ?_, fun model runs stands => ?_⟩
    · split
      · omega
      · omega
    · cases kind : timeline.isShared with
      | true => exact Nat.le_refl _
      | false => exact absurd ⟨kind, model, perm.mem_iff.mpr (mem_running.mpr runs), stands⟩ taken

/-- A quantum moves the furthest timeline by at most its ticks and a sixteenth of them. -/
theorem horizon_runQuantum_le (h : kernel.Reachable) (ticks : Nat) (fpFraction : Float) :
    (kernel.runQuantum ticks fpFraction).2.clocks.horizon ≤
      kernel.clocks.horizon + (ticks + ticks / 16) := by
  have next : (kernel.perform (.runQuantum ticks fpFraction)).Reachable :=
    .perform (.runQuantum ticks fpFraction) trivial h
  obtain ⟨timeline, furthest⟩ := next.keyed.exists_tick?_eq_horizon
  obtain ⟨before, known, moved, -⟩ := h.arranged.moved_runQuantum ticks fpFraction furthest
  exact moved.trans (Nat.add_le_add_right (Clocks.le_horizon known) _)

end Polycore.Kernel
