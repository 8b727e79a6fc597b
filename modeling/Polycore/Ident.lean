import Polycore.Word

/-!
# Identifiers

Core models and timelines are known by number. Timeline 0 is shared by all models that the board
times itself; every other timeline is isolated and serves one model.
-/

namespace Polycore

/-- Reference to a core model that a board owns. -/
structure ModelId where
  raw : Nat
deriving DecidableEq, Repr, Inhabited

/-- The text of a model reference, such as `model#7`. -/
def ModelId.text (model : ModelId) : String :=
  s!"model#{model.raw}"

/-- Index of an independent progression of simulated time. -/
structure Timeline where
  index : Nat
deriving DecidableEq, Repr, Inhabited

namespace Timeline

/-- The timeline that models share unless they are given one of their own. -/
def shared : Timeline := ⟨0⟩

/-- Holds of the shared timeline alone. -/
def isShared (timeline : Timeline) : Bool :=
  timeline.index == 0

/-- The isolated timeline number `n`, counted from zero. Indices are words of 32 bits, so there is a
last one. -/
def isolated? (n : Nat) : Option Timeline :=
  if n + 1 < Word.bound32 then some ⟨n + 1⟩ else none

/-- The text of a timeline, such as `timeline3`. -/
def text (timeline : Timeline) : String :=
  s!"timeline{timeline.index}"

@[simp] theorem isShared_shared : shared.isShared = true := rfl

theorem isShared_iff {timeline : Timeline} : timeline.isShared = true ↔ timeline = shared := by
  cases timeline; simp [isShared, shared]

end Timeline

end Polycore
