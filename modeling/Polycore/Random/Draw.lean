import Polycore.Random.Stream

/-!
# Draws

Uniform numbers below a bound and random orders, drawn from a stream. A uniform number is the high
half of a product of a random word and the bound; words whose product would favour some numbers are
drawn again (`Stream.drawBelow`). Every number drawn is below its bound (`Stream.drawBelow_lt`), and
a shuffled list holds what the list held (`shuffle_perm`).
-/

namespace Polycore.Random

namespace Stream

def word32 (stream : Stream) : Nat × Stream :=
  let (word, stream) := stream.next
  (word.toNat, stream)

/-- A word of 64 bits, its low half first. -/
def word64 (stream : Stream) : Nat × Stream :=
  let (low, stream) := stream.next
  let (high, stream) := stream.next
  (high.toNat <<< 32 + low.toNat, stream)

/-- The largest low half of a product that is accepted: the bound, moved to the top of the word,
less one. -/
def zone (width bound : Nat) : Nat :=
  bound <<< (width - 1 - bound.log2) - 1

/-- Draws until the low half of the product lies in the zone. More than half of all words do, so
that the last of `attempts` draws, which is taken as it is, is never reached in practice. -/
def drawBelow (width bound : Nat) (draw : Stream → Nat × Stream) :
    (attempts : Nat) → Stream → Nat × Stream
  | 0, stream =>
    let (word, stream) := draw stream
    ((word % 1 <<< width * bound) >>> width, stream)
  | attempts + 1, stream =>
    let (word, stream) := draw stream
    let product := word % 1 <<< width * bound
    if product % 1 <<< width ≤ zone width bound then (product >>> width, stream)
    else drawBelow width bound draw attempts stream

/-- The number of draws after which no further one is made. -/
def attempts : Nat := 1024

/-- A uniform number below `bound`, from words of 32 bits. -/
def below32 (bound : Nat) (stream : Stream) : Nat × Stream :=
  drawBelow 32 bound word32 attempts stream

/-- A uniform number below `bound`, from words of 64 bits. -/
def below64 (bound : Nat) (stream : Stream) : Nat × Stream :=
  drawBelow 64 bound word64 attempts stream

theorem drawBelow_lt {width bound : Nat} {draw : Stream → Nat × Stream} (h : 0 < bound)
    (attempts : Nat) (stream : Stream) :
    (drawBelow width bound draw attempts stream).1 < bound := by
  have high (word : Nat) : (word % 1 <<< width * bound) >>> width < bound := by
    rw [Nat.one_shiftLeft, Nat.shiftRight_eq_div_pow,
      Nat.div_lt_iff_lt_mul (Nat.two_pow_pos width), Nat.mul_comm bound]
    exact (Nat.mul_lt_mul_right h).mpr (Nat.mod_lt _ (Nat.two_pow_pos width))
  induction attempts generalizing stream with
  | zero => exact high _
  | succ attempts ih =>
    simp only [drawBelow]
    split
    · exact high _
    · exact ih _

theorem below64_lt {bound : Nat} (h : 0 < bound) (stream : Stream) :
    (stream.below64 bound).1 < bound :=
  drawBelow_lt h _ _

end Stream

/-! ## Random orders -/

/-- The list with the elements at two places exchanged. -/
def exchange {α : Type} (i j : Nat) (xs : List α) : List α :=
  match xs[i]?, xs[j]? with
  | some a, some b => (xs.set i b).set j a
  | _, _ => xs

theorem exchange_perm {α : Type} (i j : Nat) (xs : List α) : (exchange i j xs).Perm xs := by
  unfold exchange
  split
  · next first second =>
    obtain ⟨hi, rfl⟩ := List.getElem?_eq_some_iff.mp first
    obtain ⟨hj, rfl⟩ := List.getElem?_eq_some_iff.mp second
    exact List.set_set_perm hi hj
  · exact .refl xs

/-- Fills the places from the one numbered `last` down to the second, each with an element drawn
from those not placed yet. -/
def shuffleDownFrom {α : Type} : (last : Nat) → List α → Stream → List α × Stream
  | 0, xs, stream => (xs, stream)
  | last + 1, xs, stream =>
    let (j, stream) := stream.below32 (last + 2)
    shuffleDownFrom last (exchange (last + 1) j xs) stream

/-- The list in a random order. -/
def shuffle {α : Type} (xs : List α) (stream : Stream) : List α × Stream :=
  shuffleDownFrom (xs.length - 1) xs stream

/-- Filling the places keeps what the list holds. -/
theorem shuffleDownFrom_perm {α : Type} (last : Nat) (xs : List α) (stream : Stream) :
    (shuffleDownFrom last xs stream).1.Perm xs := by
  induction last generalizing xs stream with
  | zero => exact .refl xs
  | succ last ih =>
    rw [shuffleDownFrom]
    generalize stream.below32 (last + 2) = drawn
    exact (ih _ _).trans (exchange_perm _ _ xs)

theorem shuffle_perm {α : Type} (xs : List α) (stream : Stream) :
    (shuffle xs stream).1.Perm xs :=
  shuffleDownFrom_perm _ xs stream

end Polycore.Random
