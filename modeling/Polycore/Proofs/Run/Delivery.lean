import Polycore.Proofs.Run.Runs
import Polycore.Proofs.Run.Schedules

/-!
# Events are delivered once, in order and in time

The events of a guest fire in the order of its schedule, each right after the first quantum at whose
end its count is reached (`FiredAfter`). The induction is on the turns of the run: `Delivered` is
what it says of the events that have fired, and `Progress` adds that all others are still to come.
-/

namespace Polycore

/-- The event with a count that left the record at a place fired after the first of the quanta at
whose end the count was reached: not before that quantum ended, and before the next one did. -/
def FiredAfter (quanta : List Simulator) (count place : Nat) : Prop :=
  ∃ before ending after, quanta = before ++ ending :: after ∧
    (∀ sim ∈ before, sim.kernel.totalInstructions < count) ∧
    count ≤ ending.kernel.totalInstructions ∧ ending.events.length ≤ place ∧
    ∀ sim ∈ after, place < sim.events.length

namespace Simulator

variable {sim next final : Simulator} {pace : Pace} {pending left : List GuestEvent}

/-- The simulators at the ends of the quanta of a run from some turn on, before the events that are
due have fired. -/
def quantaFrom (pace : Pace) (pending : List GuestEvent) (sim : Simulator) : List Simulator :=
  if sim.kernel.tick < pace.maxTicks then
    sim.runQuantum pace.quantum ::
      match _ : sim.turn pace pending with
      | .ended _ _ => []
      | .goesOn left next => quantaFrom pace left next
  else []
termination_by pace.maxTicks - sim.kernel.tick
decreasing_by
  have := tick_of_turn_eq_goesOn ‹sim.turn pace pending = _›
  have := pace.quantum_pos
  omega

/-- The simulators at the ends of the quanta of a run. -/
def quanta (sim : Simulator) : List Simulator :=
  match sim.start with
  | (.error _, _) => []
  | (.ok pace, started) => quantaFrom pace started.workload.schedule started

theorem quantaFrom_of_turn_eq_goesOn (h : sim.turn pace pending = .goesOn left next) :
    quantaFrom pace pending sim =
      sim.runQuantum pace.quantum :: quantaFrom pace left next := by
  rw [quantaFrom, if_pos (tick_of_turn_eq_goesOn h).1]
  split
  · next ended => cases h.symm.trans ended
  · next turned =>
    cases h.symm.trans turned
    rfl

theorem quantaFrom_of_turn_eq_ended {result : Except RunError ExitReason}
    (h : sim.turn pace pending = .ended result final) :
    quantaFrom pace pending sim =
      if sim.kernel.tick < pace.maxTicks then [sim.runQuantum pace.quantum] else [] := by
  rw [quantaFrom]
  split
  · split
    · rfl
    · next turned => cases h.symm.trans turned
  · rfl

end Simulator

/-! ## Events that have fired -/

theorem FiredAfter.append {quanta : List Simulator} {count place : Nat}
    (h : FiredAfter quanta count place) {sim : Simulator} (later : place < sim.events.length) :
    FiredAfter (quanta ++ [sim]) count place := by
  obtain ⟨before, ending, after, rfl, early, reached, unrecorded, recorded⟩ := h
  refine ⟨before, ending, after ++ [sim], by simp, early, reached, unrecorded, ?_⟩
  exact List.forall_mem_append.mpr ⟨recorded, List.forall_mem_singleton.mpr later⟩

namespace Simulator

/-- What the records of a simulator say of the events that have fired. -/
structure Delivered (quanta : List Simulator) (fired : List GuestEvent) (sim : Simulator) :
    Prop where
  triggers : sim.events.map (·.trigger) = fired.map (·.trigger)
  timely : ∀ place event, fired[place]? = some event →
    ∃ record, sim.events[place]? = some record ∧ event.count ≤ record.instructions ∧
      FiredAfter quanta event.count place
  due : ∀ event ∈ fired, event.count ≤ sim.kernel.totalInstructions

namespace Delivered

variable {sim next ending : Simulator} {quanta : List Simulator}
  {fired passed : List GuestEvent} {event : GuestEvent} {action : Action}

theorem length (h : Delivered quanta fired sim) : sim.events.length = fired.length := by
  rw [← List.length_map (·.trigger), h.triggers, List.length_map]

theorem runQuantum (h : Delivered quanta fired sim) (ticks : Nat) :
    Delivered (quanta ++ [sim.runQuantum ticks]) fired (sim.runQuantum ticks) where
  triggers := h.triggers
  timely place event found := by
    obtain ⟨record, hrecord, count, after⟩ := h.timely place event found
    exact ⟨record, hrecord, count, after.append (List.getElem?_eq_some_iff.mp hrecord).1⟩
  due event mem :=
    Nat.le_trans (h.due event mem) (Kernel.totalInstructions_le_runQuantum _ _ _)

/-- An event that is due after the last quantum, and was not due before, fires in time. -/
theorem fires (h : Delivered (quanta ++ [ending]) fired sim)
    (fires : Fires sim event.trigger action next)
    (total : sim.kernel.totalInstructions = ending.kernel.totalInstructions)
    (recorded : ending.events.length ≤ sim.events.length)
    (undue : ∀ sim ∈ quanta, sim.kernel.totalInstructions < event.count)
    (due : event.count ≤ ending.kernel.totalInstructions) :
    Delivered (quanta ++ [ending]) (fired ++ [event]) next where
  triggers := by
    rw [fires.events, List.map_append, List.map_append, h.triggers]
    rfl
  timely place other found := by
    rw [fires.events]
    rcases getElem?_concat_eq_some_iff.mp found with old | ⟨rfl, rfl⟩
    · obtain ⟨record, hrecord, count, after⟩ := h.timely place other old
      exact ⟨record, getElem?_concat_eq_some_iff.mpr (.inl hrecord), count, after⟩
    · refine ⟨_, getElem?_concat_eq_some_iff.mpr (.inr ⟨h.length.symm, rfl⟩), ?_, ?_⟩
      · change _ ≤ next.kernel.totalInstructions
        rw [fires.total, total]
        exact due
      · rw [h.length] at recorded
        exact ⟨quanta, ending, [], rfl, undue, due, recorded, List.forall_mem_nil _⟩
  due := by
    rw [fires.total]
    exact List.forall_mem_append.mpr ⟨h.due, List.forall_mem_singleton.mpr (total ▸ due)⟩

theorem passes (h : Delivered (quanta ++ [ending]) fired sim) (passes : Passes passed sim next)
    (total : sim.kernel.totalInstructions = ending.kernel.totalInstructions)
    (recorded : ending.events.length ≤ sim.events.length)
    (undue : ∀ event ∈ passed, ∀ sim ∈ quanta, sim.kernel.totalInstructions < event.count)
    (due : ∀ event ∈ passed, event.count ≤ ending.kernel.totalInstructions) :
    Delivered (quanta ++ [ending]) (fired ++ passed) next := by
  induction passes generalizing fired with
  | nil => rwa [List.append_nil]
  | @cons event _ _ mid _ first _ ih =>
    rw [List.forall_mem_cons] at undue due
    have longer : ending.events.length ≤ mid.events.length := by
      rw [first.events, List.length_append]
      exact Nat.le_add_right_of_le recorded
    rw [List.append_cons fired]
    exact ih (h.fires first total recorded undue.1 due.1) (first.total.trans total) longer undue.2
      due.2

end Delivered

/-! ## The turns of a run -/

/-- What holds before every turn of a run of a workload that goes through all of some quanta: some
events have fired in time, and all others come after every quantum so far. Before the first quantum
the cut-off is still to come. -/
structure Progress (pace : Pace) (workload : Workload) (all quanta : List Simulator)
    (fired pending : List GuestEvent) (sim : Simulator) : Prop where
  program : sim.workload = workload
  split : workload.schedule = fired ++ pending
  ahead : all = quanta ++ quantaFrom pace pending sim
  delivered : Delivered quanta fired sim
  undue : ∀ event ∈ pending, ∀ sim ∈ quanta, sim.kernel.totalInstructions < event.count
  waiting : sim.kernel.tick < pace.maxTicks ∨
    ∀ event ∈ pending, sim.kernel.totalInstructions < event.count

/-- If the first of some events in ascending order is not due, none of them is. -/
theorem undue_of_head {left : List GuestEvent} {retired : Nat}
    (ascending : left.Pairwise fun a b => a.count ≤ b.count)
    (head : ∀ event ∈ left.head?, retired < event.count) :
    ∀ event ∈ left, retired < event.count := by
  cases left with
  | nil => exact List.forall_mem_nil _
  | cons first rest =>
    have undue := head first rfl
    refine List.forall_mem_cons.mpr ⟨undue, fun event mem => ?_⟩
    exact Nat.lt_of_lt_of_le undue ((List.pairwise_cons.mp ascending).1 event mem)

namespace Progress

variable {sim mid next final : Simulator} {all quanta : List Simulator} {pace : Pace}
  {workload : Workload} {fired pending passed left : List GuestEvent} {reason : ExitReason}

theorem begin (hworkload : sim.workload = workload) (unrecorded : sim.events = [])
    (early : sim.kernel.tick < pace.maxTicks) :
    Progress pace workload (quantaFrom pace workload.schedule sim) [] [] workload.schedule sim where
  program := hworkload
  split := rfl
  ahead := rfl
  delivered :=
    { triggers := by rw [unrecorded, List.map_nil, List.map_nil]
      timely := fun place event found => by
        rw [List.getElem?_nil] at found
        cases found
      due := List.forall_mem_nil _ }
  undue _ _ := List.forall_mem_nil _
  waiting := .inl early

theorem passes (h : Progress pace workload all quanta fired (passed ++ left) sim)
    (due : ∀ event ∈ passed,
      event.count ≤ (sim.runQuantum pace.quantum).kernel.totalInstructions)
    (passes : Passes passed (sim.runQuantum pace.quantum) next) :
    Delivered (quanta ++ [sim.runQuantum pace.quantum]) (fired ++ passed) next :=
  (h.delivered.runQuantum pace.quantum).passes passes rfl (Nat.le_refl _)
    (List.forall_mem_append.mp h.undue).1 due

/-- What a quantum leaves in the schedule comes after it. -/
theorem undue_left (h : Progress pace workload all quanta fired (passed ++ left) sim)
    (undue : ∀ event ∈ left.head?,
      (sim.runQuantum pace.quantum).kernel.totalInstructions < event.count) :
    ∀ event ∈ left, (sim.runQuantum pace.quantum).kernel.totalInstructions < event.count := by
  have ascending := workload.pairwise_schedule
  rw [h.split, List.pairwise_append, List.pairwise_append] at ascending
  exact undue_of_head ascending.2.1.2.1 undue

theorem goesOn (h : Progress pace workload all quanta fired pending sim)
    (goesOn : GoesOn pace pending left sim next passed) :
    Progress pace workload all (quanta ++ [sim.runQuantum pace.quantum]) (fired ++ passed) left
      next := by
  obtain ⟨turn, -, rfl, due, undue, passes, -⟩ := goesOn
  have later := h.undue_left undue
  refine ⟨passes.workload.trans h.program, ?_, ?_, h.passes due passes, fun event mem => ?_,
    .inr ?_⟩
  · rw [List.append_assoc]
    exact h.split
  · rw [h.ahead, quantaFrom_of_turn_eq_goesOn turn, List.append_assoc, List.singleton_append]
  · have before := (List.forall_mem_append.mp h.undue).2 event mem
    exact List.forall_mem_append.mpr ⟨before, List.forall_mem_singleton.mpr (later event mem)⟩
  · rw [passes.total]
    exact later

end Progress

end Simulator

/-- The events of a report, told against the schedule of its workload and the quanta of its run: the
first `k` entries of the schedule, each fired in time, and what the end of the run adds. -/
structure RunReport.Delivers (report : RunReport) (schedule : List GuestEvent)
    (quanta : List Simulator) (k : Nat) (tail : List Trigger) : Prop where
  bound : k ≤ schedule.length
  triggers : report.events.map (·.trigger) = (schedule.take k).map (·.trigger) ++ tail
  ends : (tail = [] ∧ 1 ≤ k ∧ report.events.getLast?.map (·.action) = some .stop) ∨
    (tail = [.exit] ∧ k = schedule.length) ∨
    (tail = [.maxTick] ∧ k = schedule.countP (·.count ≤ report.instructions))
  timely : ∀ place < k, ∀ event, schedule[place]? = some event →
    ∃ record, report.events[place]? = some record ∧ event.count ≤ record.instructions ∧
      FiredAfter quanta event.count place

namespace Simulator

variable {sim mid final : Simulator} {all quanta : List Simulator} {pace : Pace}
  {report : RunReport} {workload : Workload} {event : GuestEvent}
  {schedule fired passed pending left : List GuestEvent} {action : Action} {reason : ExitReason}

/-- Events that have fired are those that a report delivers, once the rest of it is known. -/
theorem Delivered.delivers (h : Delivered quanta fired mid) {extra : List ExitRecord}
    {tail : List Trigger} (hschedule : schedule = fired ++ left)
    (events : report.events = mid.events ++ extra) (htail : extra.map (·.trigger) = tail)
    (ends : (tail = [] ∧ 1 ≤ fired.length ∧
        report.events.getLast?.map (·.action) = some .stop) ∨
      (tail = [.exit] ∧ fired.length = schedule.length) ∨
      (tail = [.maxTick] ∧ fired.length = schedule.countP (·.count ≤ report.instructions))) :
    report.Delivers schedule quanta fired.length tail where
  bound := by
    rw [hschedule, List.length_append]
    exact Nat.le_add_right _ _
  triggers := by
    rw [hschedule, List.take_left, events, List.map_append, h.triggers, htail]
  ends := ends
  timely place early event found := by
    rw [hschedule, List.getElem?_append_left early] at found
    obtain ⟨record, hrecord, rest⟩ := h.timely place event found
    have bound := (List.getElem?_eq_some_iff.mp hrecord).1
    exact ⟨record, by rw [events, List.getElem?_append_left bound, hrecord], rest⟩

namespace Progress

/-- At the cut-off the events that have fired are those whose counts were reached. -/
theorem delivers_cutOff (h : Progress pace workload all quanta fired pending sim)
    (late : pace.maxTicks ≤ sim.kernel.tick) (fires : Fires sim .maxTick action final) :
    (final.report reason).Delivers workload.schedule quanta fired.length [.maxTick] := by
  have undue := h.waiting.resolve_left (Nat.not_lt.mpr late)
  have count : fired.length =
      workload.schedule.countP (·.count ≤ final.kernel.totalInstructions) := by
    rw [fires.total, h.split, List.countP_append, List.countP_eq_length.mpr,
      List.countP_eq_zero.mpr, Nat.add_zero]
    · exact fun event mem => by simpa using undue event mem
    · exact fun event mem => by simpa using h.delivered.due event mem
  exact h.delivered.delivers h.split fires.events rfl (.inr (.inr ⟨rfl, count⟩))

theorem delivers_stopped
    (h : Progress pace workload all quanta fired (passed ++ event :: left) sim)
    (due : ∀ event ∈ passed, event.count ≤ (sim.runQuantum pace.quantum).kernel.totalInstructions)
    (last : event.count ≤ (sim.runQuantum pace.quantum).kernel.totalInstructions)
    (passes : Passes passed (sim.runQuantum pace.quantum) mid)
    (fires : Fires mid event.trigger .stop final) :
    (final.report reason).Delivers workload.schedule (quanta ++ [sim.runQuantum pace.quantum])
      (fired ++ passed ++ [event]).length [] := by
  have delivered := h.passes due passes
  have recorded : (sim.runQuantum pace.quantum).events.length ≤ mid.events.length := by
    rw [delivered.length, List.length_append]
    exact Nat.le_add_right_of_le (Nat.le_of_eq h.delivered.length)
  have undue := h.undue event (List.mem_append_right _ List.mem_cons_self)
  have stopped := delivered.fires fires passes.total recorded undue last
  have hschedule : workload.schedule = fired ++ passed ++ [event] ++ left := by
    rw [h.split, List.append_assoc, List.append_assoc, List.singleton_append]
  refine stopped.delivers hschedule (List.append_nil _).symm rfl (.inl ⟨rfl, ?_, ?_⟩)
  · rw [List.length_append]
    exact Nat.le_add_left _ _
  · change final.events.getLast?.map (·.action) = some .stop
    rw [fires.events, List.getLast?_concat]
    rfl

theorem delivers_finished (h : Progress pace workload all quanta fired passed sim)
    (due : ∀ event ∈ passed, event.count ≤ (sim.runQuantum pace.quantum).kernel.totalInstructions)
    (passes : Passes passed (sim.runQuantum pace.quantum) mid)
    (fires : Fires mid .exit action final) :
    (final.report reason).Delivers workload.schedule (quanta ++ [sim.runQuantum pace.quantum])
      (fired ++ passed).length [.exit] := by
  rw [← List.append_nil passed] at h
  have hschedule : workload.schedule = fired ++ passed ++ [] := by
    rw [h.split, List.append_assoc]
  refine (h.passes due passes).delivers hschedule fires.events rfl (.inr (.inl ⟨rfl, ?_⟩))
  rw [hschedule, List.append_nil]

theorem delivers (h : Progress pace workload all quanta fired pending sim)
    (valid : workload.error? = none)
    (turn : sim.turn pace pending = .ended (.ok reason) final) :
    ∃ k tail, (final.report reason).Delivers workload.schedule all k tail := by
  have hquanta := h.ahead
  rw [quantaFrom_of_turn_eq_ended turn] at hquanta
  cases ending_of_turn turn with
  | cutOff late fires =>
    rw [if_neg (Nat.not_lt.mpr late), List.append_nil] at hquanta
    rw [hquanta]
    exact ⟨_, _, h.delivers_cutOff late fires⟩
  | stopped early hpending due last passes fires =>
    subst hpending
    rw [if_pos early] at hquanta
    rw [hquanta]
    exact ⟨_, _, h.delivers_stopped due last passes fires⟩
  | @finished passed left _ _ _ early hpending due undue passes done fires =>
    subst hpending
    have hschedule : workload.schedule = fired ++ passed ++ left := by
      rw [h.split, List.append_assoc]
    obtain rfl := Workload.eq_nil_of_undue valid hschedule undue (h.program ▸ done)
    rw [List.append_nil] at h
    rw [if_pos early] at hquanta
    rw [hquanta]
    exact ⟨_, _, h.delivers_finished due passes fires⟩

end Progress

/-- Every event of the guest is delivered once, in the order of the schedule and as early as the
quanta allow: a run on a kernel that has simulated no time delivers the first entries of the
schedule up to one that stopped it, all of them, or those whose counts were reached before the
cut-off. -/
theorem run_delivers_schedule (reachable : sim.Reachable) (fresh : sim.kernel.Fresh)
    (h : sim.run = (.ok report, final)) :
    ∃ k tail, report.Delivers sim.workload.schedule sim.quanta k tail := by
  obtain ⟨pace, started, reason, hstarted, ended, rfl⟩ := started_of_run h
  have unrecorded : started.events = [] :=
    hstarted.events.trans (reachable.events_eq_nil hstarted.alone)
  have early : started.kernel.tick < pace.maxTicks := by
    rw [(hstarted.fresh fresh).tick_eq_zero]
    exact Nat.lt_of_lt_of_le pace.quantum_pos pace.quantum_le
  have first : Progress pace sim.workload sim.quanta [] [] sim.workload.schedule started := by
    rw [quanta, hstarted.start, ← hstarted.workload]
    exact .begin rfl unrecorded early
  obtain ⟨pending, sim', ⟨quanta, fired, progress⟩, turn⟩ :=
    loop_ends
      (P := fun pending sim' =>
        ∃ quanta fired, Progress pace sim.workload sim.quanta quanta fired pending sim')
      (fun goesOn ⟨_, _, progress⟩ => ⟨_, _, progress.goesOn goesOn⟩)
      ⟨[], [], first⟩
  rw [ended] at turn
  exact progress.delivers hstarted.valid turn

theorem run_delivers_schedule_quad :
    ∃ report final, quad.run = (.ok report, final) ∧
      report.events.map (fun record => (record.trigger, record.activeCores.length)) =
        [(.checkpoint, 2), (.exit, 2)] ∧
      ∃ k tail, report.Delivers quad.workload.schedule quad.quanta k tail := by
  have ends : (quad.run.1.toOption.any fun report =>
      report.events.map (fun record => (record.trigger, record.activeCores.length)) =
        [(.checkpoint, 2), (.exit, 2)]) = true := by
    decide +kernel
  obtain ⟨report, final, ran, events⟩ := exists_run_of_any ends
  exact ⟨report, final, ran, of_decide_eq_true events,
    run_delivers_schedule reachable_quad Kernel.fresh_quad ran⟩

end Simulator

end Polycore
