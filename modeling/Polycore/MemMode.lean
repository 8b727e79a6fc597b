/-!
# Memory modes

How the board's memory system serves the cores.
-/

namespace Polycore

/-- Access mode of the board's memory system. -/
inductive MemMode where
  /-- detailed, timed accesses -/
  | timing
  /-- functional accesses through the caches -/
  | atomic
  /-- functional accesses past the caches -/
  | atomicNoncaching
deriving DecidableEq, Repr, Inhabited

def MemMode.label : MemMode → String
  | timing => "Timing"
  | atomic => "Atomic"
  | atomicNoncaching => "AtomicNoncaching"

def MemMode.all : List MemMode :=
  [timing, atomic, atomicNoncaching]

end Polycore
