import Mathlib.Data.List.Perm.Basic
import Polycore.Run.Workload

/-!
# Schedules

A schedule holds the markers and the exits of a workload, in ascending order of their counts. The
markers of a workload that was put together step by step (`Workload.Built`) are neither exits nor
cut-offs (`Workload.Annotated`).
-/

namespace Polycore.Workload

variable {workload : Workload} {event : GuestEvent}

theorem sortByCount_perm (events : List GuestEvent) : (sortByCount events).Perm events :=
  List.mergeSort_perm _ _

theorem pairwise_sortByCount (events : List GuestEvent) :
    (sortByCount events).Pairwise fun a b => a.count ≤ b.count := by
  have sorted : (sortByCount events).Pairwise fun a b => decide (a.count ≤ b.count) = true :=
    List.pairwise_mergeSort (fun a b c => by simp only [decide_eq_true_eq]; omega)
      (fun a b => by simp only [Bool.or_eq_true, decide_eq_true_eq]; omega) events
  simpa using sorted

/-- The guest raises its events in ascending order of their counts. -/
theorem pairwise_schedule (workload : Workload) :
    workload.schedule.Pairwise fun a b => a.count ≤ b.count :=
  pairwise_sortByCount _

theorem mem_schedule :
    event ∈ workload.schedule ↔
      event ∈ workload.markers ∨ event.trigger = .exit ∧ event.count ∈ workload.exitPoints := by
  rw [schedule, (sortByCount_perm _).mem_iff, List.mem_append, exitEvents, List.mem_map]
  refine or_congr_right ⟨?_, ?_⟩
  · rintro ⟨count, mem, rfl⟩
    exact ⟨rfl, mem⟩
  · rintro ⟨trigger, mem⟩
    refine ⟨event.count, mem, ?_⟩
    rw [← trigger]

/-! ## What is added -/

theorem schedule_perm (workload : Workload) :
    workload.schedule.Perm (workload.markers ++ workload.exitEvents) :=
  sortByCount_perm _

/-- The share of a workload that names none. -/
theorem isShare_default : isShare 0.2 = true := by
  decide +kernel

theorem error?_eq_none_iff :
    workload.error? = none ↔
      0 < workload.instructions ∧ isShare workload.fpFraction = true ∧
        ∀ event ∈ workload.schedule, event.count < workload.instructions := by
  unfold error?
  split
  · next empty => exact iff_of_false nofun fun h => absurd empty (Nat.ne_of_gt h.1)
  · next nonempty =>
    split
    · next outside => exact iff_of_false nofun fun h => by simp [h.2.1] at outside
    · next share =>
      have share : isShare workload.fpFraction = true := by simpa using share
      rw [Option.map_eq_none_iff, List.find?_eq_none]
      simp [Nat.pos_iff_ne_zero, nonempty, share]

theorem pos_of_error?_eq_none (h : workload.error? = none) : 0 < workload.instructions :=
  (error?_eq_none_iff.mp h).1

/-- All events of a valid workload come before its end. -/
theorem count_lt_of_error?_eq_none (h : workload.error? = none) (mem : event ∈ workload.schedule) :
    event.count < workload.instructions :=
  (error?_eq_none_iff.mp h).2.2 event mem

/-- When a guest is done and the next of its events is not due, there is none left. -/
theorem eq_nil_of_undue {fired left : List GuestEvent} {retired : Nat}
    (valid : workload.error? = none) (split : workload.schedule = fired ++ left)
    (undue : ∀ event ∈ left.head?, retired < event.count)
    (done : workload.instructions ≤ retired) : left = [] := by
  cases left with
  | nil => rfl
  | cons first rest =>
    have unreached := undue first rfl
    have inside : first.count < workload.instructions := by
      refine count_lt_of_error?_eq_none valid ?_
      rw [split]
      exact List.mem_append_right _ List.mem_cons_self
    omega

/-! ## Built workloads -/

/-- The workloads that can be put together step by step. -/
inductive Built : Workload → Prop where
  | new (name : String) (instructions : Nat) : Built { name, instructions }
  | fpFraction {workload : Workload} (fpFraction : Float) :
    Built workload → Built { workload with fpFraction }
  | exitPoint {workload : Workload} (count : Nat) :
    Built workload → Built (workload.withExitPoint count)
  | workBegin {workload : Workload} (count : Nat) :
    Built workload → Built (workload.withWorkBegin count)
  | workEnd {workload : Workload} (count : Nat) :
    Built workload → Built (workload.withWorkEnd count)
  | checkpoint {workload : Workload} (count : Nat) :
    Built workload → Built (workload.withCheckpoint count)

theorem forall_mem_markers_withMarker {P : Trigger → Prop} {trigger : Trigger} (count : Nat)
    (new : P trigger) (old : ∀ event ∈ workload.markers, P event.trigger) :
    ∀ event ∈ (workload.withMarker trigger count).markers, P event.trigger := by
  intro event mem
  rcases List.mem_append.mp ((sortByCount_perm _).mem_iff.mp mem) with mem | mem
  · exact old event mem
  · rw [List.mem_singleton.mp mem]
    exact new

/-- The markers of a workload annotate it: they are neither exits of the guest nor cut-offs. -/
def Annotated (workload : Workload) : Prop :=
  ∀ marker ∈ workload.markers, marker.trigger ≠ .exit ∧ marker.trigger ≠ .maxTick

theorem Built.annotated (h : workload.Built) : workload.Annotated := by
  have marker {workload : Workload} {trigger : Trigger} (count : Nat)
      (new : trigger ≠ .exit ∧ trigger ≠ .maxTick) (old : workload.Annotated) :
      (workload.withMarker trigger count).Annotated :=
    forall_mem_markers_withMarker (P := fun trigger => trigger ≠ .exit ∧ trigger ≠ .maxTick) count
      new old
  induction h with
  | new => exact nofun
  | fpFraction _ _ ih => exact ih
  | exitPoint _ _ ih => exact ih
  | workBegin count _ ih => exact marker count ⟨nofun, nofun⟩ ih
  | workEnd count _ ih => exact marker count ⟨nofun, nofun⟩ ih
  | checkpoint count _ ih => exact marker count ⟨nofun, nofun⟩ ih

namespace Annotated

theorem trigger_ne_maxTick (h : workload.Annotated) (mem : event ∈ workload.schedule) :
    event.trigger ≠ .maxTick := by
  rcases mem_schedule.mp mem with marker | ⟨exit, -⟩
  · exact (h event marker).2
  · rw [exit]
    exact nofun

/-- The exits in the schedule are those of the exit points. -/
theorem countP_exit_schedule (h : workload.Annotated) :
    workload.schedule.countP (·.trigger = .exit) = workload.exitPoints.length := by
  have markers : workload.markers.countP (·.trigger = .exit) = 0 := by
    refine List.countP_eq_zero.mpr fun marker mem => ?_
    simpa using (h marker mem).1
  have exits : workload.exitEvents.countP (·.trigger = .exit) = workload.exitEvents.length := by
    simp [exitEvents]
  rw [schedule, (sortByCount_perm _).countP_eq, List.countP_append, markers, exits, Nat.zero_add,
    exitEvents, List.length_map]

end Annotated

end Polycore.Workload
