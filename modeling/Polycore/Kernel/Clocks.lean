import Polycore.Ident

/-!
# Clocks

How far every timeline has come. The shared timeline always has a tick; an isolated one has a tick
from the moment it is first used, and starts where the shared one stands.
-/

namespace Polycore

/-- The ticks of all timelines in use. -/
structure Clocks where
  /-- tick of the shared timeline -/
  shared : Nat := 0
  /-- ticks of the isolated timelines, in the order of their first use -/
  isolated : List (Timeline × Nat) := []
deriving DecidableEq, Repr

namespace Clocks

/-- The tick of a timeline, if it is in use. -/
def tick? (clocks : Clocks) (timeline : Timeline) : Option Nat :=
  if timeline.isShared then some clocks.shared else clocks.isolated.lookup timeline

/-- The tick of the timeline that is furthest ahead. -/
def horizon (clocks : Clocks) : Nat :=
  (clocks.isolated.map (·.2)).foldl max clocks.shared

theorem shared_le_horizon (clocks : Clocks) : clocks.shared ≤ clocks.horizon := by
  have le_foldl (ticks : List Nat) (start : Nat) : start ≤ ticks.foldl max start := by
    induction ticks generalizing start with
    | nil => exact Nat.le_refl _
    | cons tick rest ih => exact Nat.le_trans (Nat.le_max_left _ _) (ih _)
  exact le_foldl _ _

/-- Brings every timeline up to the one that is furthest ahead. -/
def synchronize (clocks : Clocks) : Clocks :=
  { shared := clocks.horizon
    isolated := clocks.isolated.map fun (timeline, _) => (timeline, clocks.horizon) }

def ensure (timeline : Timeline) (clocks : Clocks) : Clocks :=
  if (clocks.tick? timeline).isSome then clocks
  else { clocks with isolated := clocks.isolated ++ [(timeline, clocks.shared)] }

/-- Moves an isolated timeline on. One that is not in use begins at zero. -/
def advance (timeline : Timeline) (ticks : Nat) (clocks : Clocks) : Clocks :=
  { clocks with
    isolated :=
      if (clocks.isolated.lookup timeline).isSome then
        clocks.isolated.map fun (other, tick) =>
          (other, if other = timeline then tick + ticks else tick)
      else clocks.isolated ++ [(timeline, ticks)] }

def advanceShared (ticks : Nat) (clocks : Clocks) : Clocks :=
  { clocks with shared := clocks.shared + ticks }

end Clocks

end Polycore
