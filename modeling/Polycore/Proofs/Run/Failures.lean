import Polycore.Proofs.Run.Budget

/-!
# Where a run fails

A run that fails does so at a firing, which is the last of all its firings and leaves no record
(`Simulator.fails_of_loop`). What quanta and the firings before it keep still holds when it begins.
-/

namespace Polycore.Simulator

variable {sim final : Simulator} {pace : Pace} {pending : List GuestEvent}
  {retired : Nat} {error : RunError}

theorem events_of_fire_eq_error {trigger : Trigger} (h : sim.fire trigger = (.error error, final)) :
    final.events = sim.events := by
  rcases (sim.fire_frame trigger).2.2 with ⟨_, -, same⟩ | ⟨_, _, ended, -⟩
  · rwa [h] at same
  · rw [h] at ended
    cases ended

theorem fire_of_complete_eq_error (h : sim.complete = (.error error, final)) :
    sim.fire .exit = (.error error, final) := by
  unfold complete at h
  split at h
  · next failed =>
    cases h
    exact failed
  · cases h
  · cases h

theorem fire_of_cutOff_eq_error (h : sim.cutOff = (.error error, final)) :
    sim.fire .maxTick = (.error error, final) := by
  unfold cutOff at h
  split at h
  · next failed =>
    cases h
    exact failed
  · cases h

/-- A simulator of which `P` holds fails to fire the last of some triggers. All others are on
record. -/
inductive Fails (P : Simulator → Prop) (triggers : List Trigger) (error : RunError)
    (final : Simulator) : Prop where
  | intro {sim : Simulator} {trigger : Trigger} (before : P sim)
    (fire : sim.fire trigger = (.error error, final))
    (last : final.events.map (·.trigger) ++ [trigger] = triggers)

section Failures

variable {P : Simulator → Prop}
  (fires : ∀ {sim next : Simulator} {trigger : Trigger} {action : Action},
    Fires sim trigger action next → P sim → P next)

theorem fails_of_fire {trigger : Trigger} (h : P sim)
    (failed : sim.fire trigger = (.error error, final)) :
    Fails P (sim.events.map (·.trigger) ++ [trigger]) error final :=
  .intro h failed (by rw [events_of_fire_eq_error failed])

include fires

theorem fails_of_deliver (h : P sim)
    (failed : deliver retired pending sim = (.error error, final)) :
    Fails P (sim.events.map (·.trigger) ++ deliveryFirings retired pending sim) error final := by
  induction pending generalizing sim with
  | nil => cases failed
  | cons event rest ih =>
    unfold deliver at failed
    unfold deliveryFirings
    split at failed
    · cases failed
    · next due =>
      rw [if_neg due]
      split at failed
      · next refused =>
        cases failed
        rw [refused]
        exact fails_of_fire h refused
      · cases failed
      · next fired =>
        have first := fires_of_fire fired
        have later := ih (fires first h) failed
        rw [first.events, List.map_append, List.append_assoc] at later
        rw [fired]
        exact later

variable (ran : ∀ {sim : Simulator} ticks, P sim → P (sim.runQuantum ticks))

include ran

theorem fails_of_turn (h : P sim) (failed : sim.turn pace pending = .ended (.error error) final) :
    Fails P (sim.events.map (·.trigger) ++ sim.turnFirings pace pending) error final := by
  unfold turn at failed
  unfold turnFirings
  split at failed
  · next late =>
    rw [Turn.ended.injEq] at failed
    rw [if_pos late]
    exact fails_of_fire h (fire_of_cutOff_eq_error (Prod.ext failed.1 failed.2))
  · next early =>
    rw [if_neg early]
    dsimp only at failed ⊢
    split at failed
    · next refused =>
      cases failed
      rw [refused, List.append_nil]
      exact fails_of_deliver fires (ran pace.quantum h) refused
    · cases failed
    · next delivered =>
      obtain ⟨passed, -, -, -, passes⟩ := passes_of_deliver delivered
      split at failed
      · next done =>
        rw [Turn.ended.injEq] at failed
        have last := fails_of_fire (passes.keeps fires (ran pace.quantum h))
          (fire_of_complete_eq_error (Prod.ext failed.1 failed.2))
        rw [triggers_of_deliver delivered, List.append_assoc] at last
        rw [delivered]
        simp only [if_pos done]
        exact last
      · cases failed

/-- A run that fails from some turn on fails at the last of its firings. -/
theorem fails_of_loop (h : P sim) (failed : loop pace pending sim = (.error error, final)) :
    Fails P (sim.events.map (·.trigger) ++ firingsFrom pace pending sim) error final := by
  induction pending, sim using loop.induct pace with
  | case1 pending sim result last ended =>
    rw [loop_of_turn_eq_ended ended, Prod.mk.injEq] at failed
    rw [firingsFrom_of_turn_eq_ended ended]
    exact fails_of_turn fires ran h (failed.1 ▸ failed.2 ▸ ended)
  | case2 pending sim left next goesOn ih =>
    obtain ⟨passed, turned⟩ := goesOn_of_turn goesOn
    rw [loop_of_turn_eq_goesOn goesOn] at failed
    have later := ih (turned.passes.keeps fires (ran pace.quantum h)) failed
    rw [triggers_of_turn_eq_goesOn goesOn, List.append_assoc] at later
    rw [firingsFrom_of_turn_eq_goesOn goesOn]
    exact later

end Failures

end Polycore.Simulator
