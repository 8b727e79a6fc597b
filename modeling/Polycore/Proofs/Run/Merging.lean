import Mathlib.Data.List.Pairwise
import Mathlib.Order.Bounds.Basic
import Polycore.Proofs.Run.Schedules

/-!
# What is added to a workload

A schedule merges the events that were added to a workload (`Workload.Merges`): it has them all, in
ascending order of their counts, and at one count the markers in the order in which they were added
and then the exits. This says what the schedule is (`Workload.Merges.unique`), so nothing else about
the order of the calls matters. It holds because sorting is stable
(`Workload.atCount_sortByCount`). The main statement is `Workload.schedule_merges`.
-/

namespace Polycore

/-- An event that is added to a workload. -/
inductive Addition where
  | exitPoint (count : Nat)
  | workBegin (count : Nat)
  | workEnd (count : Nat)
  | checkpoint (count : Nat)
deriving DecidableEq, Repr

namespace Addition

def event : Addition → GuestEvent
  | exitPoint count => ⟨count, .exit⟩
  | workBegin count => ⟨count, .workBegin⟩
  | workEnd count => ⟨count, .workEnd⟩
  | checkpoint count => ⟨count, .checkpoint⟩

def isMarker : Addition → Bool
  | exitPoint _ => false
  | _ => true

theorem isMarker_eq (addition : Addition) :
    addition.isMarker = decide (addition.event.trigger ≠ .exit) := by
  cases addition <;> rfl

end Addition

namespace Workload

variable {workload : Workload} {events first second schedule : List GuestEvent} {count : Nat}

def add (workload : Workload) : Addition → Workload
  | .exitPoint count => workload.withExitPoint count
  | .workBegin count => workload.withWorkBegin count
  | .workEnd count => workload.withWorkEnd count
  | .checkpoint count => workload.withCheckpoint count

/-- The workload after some additions, one after the other. -/
def addAll (workload : Workload) (additions : List Addition) : Workload :=
  additions.foldl add workload

/-! ## Events at one count -/

/-- The events at one count, in their order. -/
def atCount (count : Nat) (events : List GuestEvent) : List GuestEvent :=
  events.filter (·.count = count)

theorem atCount_append (count : Nat) (first second : List GuestEvent) :
    atCount count (first ++ second) = atCount count first ++ atCount count second :=
  List.filter_append _ _

/-- Sorting is stable. -/
theorem atCount_sortByCount (count : Nat) (events : List GuestEvent) :
    atCount count (sortByCount events) = atCount count events := by
  have tied : (atCount count events).Pairwise fun a b => decide (a.count ≤ b.count) = true := by
    refine List.pairwise_of_forall_mem_list fun a ha b hb => ?_
    simp only [atCount, List.mem_filter, decide_eq_true_eq] at ha hb
    simp [ha.2, hb.2]
  have kept : (atCount count events).Sublist (sortByCount events) :=
    List.sublist_mergeSort (fun a b c => by simp only [decide_eq_true_eq]; omega)
      (fun a b => by simp only [Bool.or_eq_true, decide_eq_true_eq]; omega) tied
      List.filter_sublist
  have inside : (atCount count events).Sublist (atCount count (sortByCount events)) := by
    simpa [atCount] using kept.filter (·.count = count)
  exact (inside.eq_of_length (((sortByCount_perm events).filter _).length_eq).symm).symm

theorem mem_iff_of_atCount (same : ∀ count, atCount count first = atCount count second)
    (event : GuestEvent) : event ∈ first ↔ event ∈ second := by
  have alike : event ∈ atCount event.count first ↔ event ∈ atCount event.count second := by
    rw [same]
  simpa [atCount] using alike

/-- Lists in ascending order of counts are equal if they agree at every count. -/
theorem eq_of_atCount (ascending : first.Pairwise fun a b => a.count ≤ b.count)
    (ascending' : second.Pairwise fun a b => a.count ≤ b.count)
    (same : ∀ count, atCount count first = atCount count second) : first = second := by
  induction first generalizing second with
  | nil =>
    refine (List.eq_nil_iff_forall_not_mem.mpr fun event mem => ?_).symm
    exact List.not_mem_nil ((mem_iff_of_atCount same event).mpr mem)
  | cons event rest ih =>
    cases second with
    | nil => exact absurd ((mem_iff_of_atCount same event).mp List.mem_cons_self) List.not_mem_nil
    | cons event' rest' =>
      -- both lists begin with their least count, and they have the same counts
      have mem : event ∈ event' :: rest' := (mem_iff_of_atCount same event).mp List.mem_cons_self
      have mem' : event' ∈ event :: rest := (mem_iff_of_atCount same event').mpr List.mem_cons_self
      have tie : event'.count = event.count := Nat.le_antisymm
        (ascending'.rel_head_of_rel_head_head mem (Nat.le_refl _))
        (ascending.rel_head_of_rel_head_head mem' (Nat.le_refl _))
      have heads := same event.count
      simp only [atCount, List.filter_cons, tie, decide_true, if_true, List.cons.injEq] at heads
      obtain ⟨rfl, -⟩ := heads
      refine congrArg _ (ih ascending.tail ascending'.tail fun count => ?_)
      have whole := same count
      simp only [atCount, List.filter_cons] at whole
      split at whole
      · exact (List.cons.inj whole).2
      · exact whole

theorem sortByCount_append_sortByCount (first second : List GuestEvent) :
    sortByCount (sortByCount first ++ second) = sortByCount (first ++ second) := by
  refine eq_of_atCount (pairwise_sortByCount _) (pairwise_sortByCount _) fun count => ?_
  simp only [atCount_sortByCount, atCount_append]

/-- Exits at one count are all alike, so it does not matter in which order they come. -/
theorem atCount_of_perm (exits : ∀ event ∈ second, event.trigger = .exit)
    (perm : first.Perm second) (count : Nat) : atCount count first = atCount count second := by
  have alike : atCount count second =
      List.replicate (atCount count second).length ⟨count, .exit⟩ := by
    refine List.eq_replicate_iff.mpr ⟨rfl, fun event mem => ?_⟩
    obtain ⟨mem, tie⟩ := List.mem_filter.mp mem
    rw [← exits event mem, ← of_decide_eq_true tie]
  have same : (atCount count first).Perm (atCount count second) := perm.filter _
  rw [alike] at same ⊢
  exact List.perm_replicate.mp same

/-! ## Merges -/

def markersAmong (events : List GuestEvent) : List GuestEvent :=
  events.filter (·.trigger ≠ .exit)

def exitsAmong (events : List GuestEvent) : List GuestEvent :=
  events.filter (·.trigger = .exit)

theorem trigger_of_mem_exitsAmong {event : GuestEvent} (mem : event ∈ exitsAmong events) :
    event.trigger = .exit :=
  of_decide_eq_true (List.mem_filter.mp mem).2

/-- A schedule that has some events in ascending order of their counts, and at one count the markers
in the order in which they come among the events and then the exits. -/
structure Merges (events schedule : List GuestEvent) : Prop where
  perm : schedule.Perm events
  ascending : schedule.Pairwise fun a b => a.count ≤ b.count
  tied : ∀ count, atCount count schedule =
    atCount count (markersAmong events) ++ atCount count (exitsAmong events)

namespace Merges

theorem unique (h : Merges events first) (h' : Merges events second) : first = second :=
  eq_of_atCount h.ascending h'.ascending fun count => (h.tied count).trans (h'.tied count).symm

/-- It does not matter in which order the exits come among the events and where. -/
theorem of_perm (h : Merges first schedule) (perm : first.Perm second)
    (markers : markersAmong first = markersAmong second) : Merges second schedule where
  perm := h.perm.trans perm
  ascending := h.ascending
  tied count := by
    have exits : (exitsAmong first).Perm (exitsAmong second) := perm.filter _
    rw [h.tied, markers, atCount_of_perm (fun _ => trigger_of_mem_exitsAmong) exits]

/-- The first event of a schedule that reaches a limit has the least count of all that do, and it is
the first at its count. -/
theorem of_find?_eq_some (h : Merges events schedule) {limit : Nat} {event : GuestEvent}
    (found : schedule.find? (limit ≤ ·.count) = some event) :
    IsLeast {count | limit ≤ count ∧ ∃ event ∈ events, event.count = count} event.count ∧
      schedule.find? (·.count = event.count) = some event := by
  obtain ⟨reaches, earlier, later, split, below⟩ := List.find?_eq_some_iff_append.mp found
  simp only [decide_eq_true_eq] at reaches
  have below (other : GuestEvent) (mem : other ∈ earlier) : other.count < limit := by
    simpa using below other mem
  have mem : event ∈ schedule := split ▸ List.mem_append_right _ List.mem_cons_self
  refine ⟨⟨⟨reaches, event, h.perm.mem_iff.mp mem, rfl⟩, ?_⟩, ?_⟩
  · rintro _ ⟨reaches, other, mem, rfl⟩
    rw [← h.perm.mem_iff, split] at mem
    rcases List.mem_append.mp mem with mem | mem
    · exact absurd reaches (Nat.not_le_of_lt (below other mem))
    · have ascending := h.ascending
      rw [split] at ascending
      have later := (List.pairwise_append.mp ascending).2.1
      exact later.rel_head_of_rel_head_head mem (Nat.le_refl _)
  · refine List.find?_eq_some_iff_append.mpr ⟨by simp, earlier, later, split, fun other mem => ?_⟩
    have before := below other mem
    simp only [Bool.not_eq_true', decide_eq_false_iff_not]
    omega

end Merges

/-! ## Additions -/

/-- A workload to which some events were added. -/
structure Gathered (events : List GuestEvent) (workload : Workload) : Prop where
  markers : workload.markers = sortByCount (markersAmong events)
  exits : workload.exitEvents.Perm (exitsAmong events)

namespace Gathered

theorem withMarker (h : Gathered events workload) (trigger : Trigger) (other : trigger ≠ .exit)
    (count : Nat) :
    Gathered (events ++ [⟨count, trigger⟩]) (workload.withMarker trigger count) where
  markers := by
    have added : markersAmong (events ++ [⟨count, trigger⟩]) =
        markersAmong events ++ [⟨count, trigger⟩] := by
      simp [markersAmong, other]
    rw [added, ← sortByCount_append_sortByCount, ← h.markers]
    rfl
  exits := by
    have same : exitsAmong (events ++ [⟨count, trigger⟩]) = exitsAmong events := by
      simp [exitsAmong, other]
    rw [same]
    exact h.exits

theorem withExitPoint (h : Gathered events workload) (count : Nat) :
    Gathered (events ++ [⟨count, .exit⟩]) (workload.withExitPoint count) where
  markers := by
    have same : markersAmong (events ++ [⟨count, .exit⟩]) = markersAmong events := by
      simp [markersAmong]
    rw [same]
    exact h.markers
  exits := by
    have added : exitsAmong (events ++ [⟨count, .exit⟩]) =
        exitsAmong events ++ [⟨count, .exit⟩] := by
      simp [exitsAmong]
    have sorted : (workload.withExitPoint count).exitEvents.Perm
        (workload.exitEvents ++ [⟨count, .exit⟩]) := by
      have points := (List.mergeSort_perm (workload.exitPoints ++ [count]) (· ≤ ·)).map
        fun count => (⟨count, .exit⟩ : GuestEvent)
      rwa [List.map_append] at points
    rw [added]
    exact sorted.trans (h.exits.append_right _)

theorem add (h : Gathered events workload) (addition : Addition) :
    Gathered (events ++ [addition.event]) (workload.add addition) := by
  cases addition with
  | exitPoint count => exact h.withExitPoint count
  | workBegin count => exact h.withMarker .workBegin nofun count
  | workEnd count => exact h.withMarker .workEnd nofun count
  | checkpoint count => exact h.withMarker .checkpoint nofun count

theorem addAll (h : Gathered events workload) (additions : List Addition) :
    Gathered (events ++ additions.map (·.event)) (workload.addAll additions) := by
  induction additions generalizing events workload with
  | nil =>
    rw [List.map_nil, List.append_nil]
    exact h
  | cons addition rest ih =>
    have later := ih (h.add addition)
    rwa [List.append_assoc] at later

theorem merges (h : Gathered events workload) : Merges events workload.schedule where
  perm := by
    have parts : (exitsAmong events ++ markersAmong events).Perm events := by
      simpa [exitsAmong, markersAmong] using List.filter_append_perm (·.trigger = .exit) events
    refine (schedule_perm workload).trans (.trans ?_ (List.perm_append_comm.trans parts))
    rw [h.markers]
    exact (sortByCount_perm _).append h.exits
  ascending := pairwise_schedule workload
  tied count := by
    rw [schedule, atCount_sortByCount, atCount_append, h.markers, atCount_sortByCount,
      atCount_of_perm (fun _ => trigger_of_mem_exitsAmong) h.exits]

end Gathered

theorem frame_addAll (additions : List Addition) (workload : Workload) :
    (workload.addAll additions).name = workload.name ∧
      (workload.addAll additions).instructions = workload.instructions ∧
      (workload.addAll additions).fpFraction = workload.fpFraction := by
  induction additions generalizing workload with
  | nil => exact ⟨rfl, rfl, rfl⟩
  | cons addition rest ih =>
    obtain ⟨name, instructions, fpFraction⟩ := ih (workload.add addition)
    cases addition <;> exact ⟨name, instructions, fpFraction⟩

theorem error?_of_share (nonempty : 0 < workload.instructions)
    (share : isShare workload.fpFraction = true) :
    workload.error? = (workload.schedule.find? (workload.instructions ≤ ·.count)).map fun event =>
      .pointPastEnd event.trigger event.count workload.name := by
  rw [error?, if_neg (Nat.ne_of_gt nonempty), share]
  rfl

theorem merges_addAll (name : String) (instructions : Nat) (fpFraction : Float)
    (additions : List Addition) :
    Merges (additions.map (·.event))
      (({ name, instructions, fpFraction } : Workload).addAll additions).schedule := by
  have blank : Gathered [] { name, instructions, fpFraction } :=
    ⟨List.mergeSort_nil.symm, .nil⟩
  exact (blank.addAll additions).merges

theorem markersAmong_map_event (additions : List Addition) :
    markersAmong (additions.map (·.event)) =
      (additions.filter (·.isMarker)).map (·.event) := by
  rw [markersAmong, List.filter_map]
  refine congrArg _ (List.filter_congr fun addition _ => ?_)
  exact addition.isMarker_eq.symm

/-- The schedule of a workload merges the events that were added to it, and it does not matter in
which order the exits were added and where among the markers. With some instructions and a share of
floating-point work, a workload is at fault exactly if some added event is past its end. Then the
error names the least such count, and what comes first in the schedule at that count. -/
theorem schedule_merges (name : String) (instructions : Nat) (fpFraction : Float)
    (additions : List Addition) :
    let blank : Workload := { name, instructions, fpFraction }
    let workload := blank.addAll additions
    let events := additions.map (·.event)
    Merges events workload.schedule ∧
    (∀ other : List Addition, other.Perm additions →
      other.filter (·.isMarker) = additions.filter (·.isMarker) →
      (blank.addAll other).schedule = workload.schedule) ∧
    (0 < instructions → isShare fpFraction = true →
      ((∃ error, workload.error? = some error) ↔ ∃ event ∈ events, instructions ≤ event.count) ∧
      ∀ error, workload.error? = some error → ∃ event,
        error = .pointPastEnd event.trigger event.count name ∧
        IsLeast {count | instructions ≤ count ∧ ∃ event ∈ events, event.count = count} event.count ∧
        workload.schedule.find? (·.count = event.count) = some event) := by
  intro blank workload events
  have merges : Merges events workload.schedule :=
    merges_addAll name instructions fpFraction additions
  refine ⟨merges, fun other perm markers => ?_, fun nonempty share => ?_⟩
  · have reordered : Merges events (blank.addAll other).schedule := by
      refine (merges_addAll name instructions fpFraction other).of_perm (perm.map _) ?_
      rw [markersAmong_map_event, markersAmong_map_event, markers]
    exact reordered.unique merges
  · obtain ⟨sameName, sameInstructions, sameShare⟩ := frame_addAll additions blank
    have failure : workload.error? = (workload.schedule.find? (instructions ≤ ·.count)).map
        fun event => .pointPastEnd event.trigger event.count name := by
      have filled : 0 < workload.instructions := sameInstructions.symm ▸ nonempty
      have shared : isShare workload.fpFraction = true := sameShare.symm ▸ share
      rw [error?_of_share filled shared, sameName, sameInstructions]
    constructor
    · rw [failure, ← Option.isSome_iff_exists, Option.isSome_map, List.find?_isSome]
      simp only [decide_eq_true_eq, merges.perm.mem_iff]
    · intro error invalid
      rw [failure, Option.map_eq_some_iff] at invalid
      obtain ⟨event, found, rfl⟩ := invalid
      exact ⟨event, rfl, merges.of_find?_eq_some found⟩

theorem schedule_merges_late :
    let workload := addAll { name := "late", instructions := 9 } [.exitPoint 12, .workEnd 9]
    0 < 9 ∧ isShare 0.2 = true ∧
      workload.error? = some (.pointPastEnd .workEnd 9 "late") := by
  intro workload
  obtain ⟨merges, -, validation⟩ := schedule_merges "late" 9 0.2 [.exitPoint 12, .workEnd 9]
  obtain ⟨fails, names⟩ := validation (by decide) isShare_default
  refine ⟨by decide, isShare_default, ?_⟩
  obtain ⟨error, invalid⟩ := fails.mpr ⟨⟨9, .workEnd⟩, by decide, by decide⟩
  obtain ⟨event, rfl, least, first⟩ := names error invalid
  have atNine : event.count = 9 :=
    Nat.le_antisymm (least.2 ⟨by decide, ⟨9, .workEnd⟩, by decide, rfl⟩) least.1.1
  have added : event ∈ [⟨12, .exit⟩, ⟨9, .workEnd⟩] :=
    merges.perm.mem_iff.mp (List.mem_of_find?_eq_some first)
  rcases List.mem_pair.mp added with rfl | rfl
  · cases atNine
  · exact invalid

end Workload

end Polycore
