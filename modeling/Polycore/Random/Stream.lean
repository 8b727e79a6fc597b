/-!
# Random streams

The keystream of the ChaCha cipher with eight rounds, as one endless stream of 32-bit words. A
stream is a value: its key, the number of the next block, and the words of the current block that
have not been taken yet.
-/

namespace Polycore.Random

/-- Four words side by side. -/
structure Row where
  w0 : UInt32
  w1 : UInt32
  w2 : UInt32
  w3 : UInt32
deriving DecidableEq, Repr

namespace Row

@[inline] def combine (f : UInt32 → UInt32 → UInt32) (a b : Row) : Row :=
  ⟨f a.w0 b.w0, f a.w1 b.w1, f a.w2 b.w2, f a.w3 b.w3⟩

@[inline] def rotate (amount : UInt32) (a : Row) : Row :=
  let f (w : UInt32) := (w <<< amount) ||| (w >>> (32 - amount))
  ⟨f a.w0, f a.w1, f a.w2, f a.w3⟩

/-- Moves every word one place to the left, the first to the end. -/
@[inline] def turn (a : Row) : Row :=
  ⟨a.w1, a.w2, a.w3, a.w0⟩

def toList (a : Row) : List UInt32 :=
  [a.w0, a.w1, a.w2, a.w3]

end Row

/-- The state of the cipher: four rows of four words. -/
structure Square where
  a : Row
  b : Row
  c : Row
  d : Row
deriving DecidableEq, Repr

namespace Square

/-- A quarter round on every column. -/
def mixColumns (s : Square) : Square :=
  let a := s.a.combine (· + ·) s.b
  let d := (s.d.combine (· ^^^ ·) a).rotate 16
  let c := s.c.combine (· + ·) d
  let b := (s.b.combine (· ^^^ ·) c).rotate 12
  let a := a.combine (· + ·) b
  let d := (d.combine (· ^^^ ·) a).rotate 8
  let c := c.combine (· + ·) d
  let b := (b.combine (· ^^^ ·) c).rotate 7
  ⟨a, b, c, d⟩

/-- Brings the diagonals into the columns. -/
def turnIn (s : Square) : Square :=
  ⟨s.a, s.b.turn, s.c.turn.turn, s.d.turn.turn.turn⟩

/-- Brings the columns back into the diagonals. -/
def turnOut (s : Square) : Square :=
  ⟨s.a, s.b.turn.turn.turn, s.c.turn.turn, s.d.turn⟩

/-- A round on the columns and one on the diagonals. -/
def doubleRound (s : Square) : Square :=
  s.mixColumns.turnIn.mixColumns.turnOut

def add (s t : Square) : Square :=
  ⟨s.a.combine (· + ·) t.a, s.b.combine (· + ·) t.b, s.c.combine (· + ·) t.c,
    s.d.combine (· + ·) t.d⟩

def toList (s : Square) : List UInt32 :=
  s.a.toList ++ s.b.toList ++ s.c.toList ++ s.d.toList

end Square

/-- The constant first row of every block. -/
def constants : Row :=
  ⟨0x61707865, 0x3320646e, 0x79622d32, 0x6b206574⟩

/-- A stream of random words. -/
structure Stream where
  keyLow : Row
  keyHigh : Row
  /-- number of the block after the current one -/
  block : UInt64
  /-- words of the current block that are left -/
  pending : List UInt32
deriving DecidableEq, Repr

namespace Stream

/-- The sixteen words of a block: eight rounds from the key and the block's number, added to where
they started. -/
def blockWords (keyLow keyHigh : Row) (block : UInt64) : List UInt32 :=
  let position : Row := ⟨block.toUInt32, (block >>> 32).toUInt32, 0, 0⟩
  let start : Square := ⟨constants, keyLow, keyHigh, position⟩
  (start.doubleRound.doubleRound.doubleRound.doubleRound.add start).toList

/-- The next word, and the stream after it. -/
def next (stream : Stream) : UInt32 × Stream :=
  match stream.pending with
  | word :: rest => (word, { stream with pending := rest })
  | [] =>
    let words := blockWords stream.keyLow stream.keyHigh stream.block
    (words.headD 0, { stream with block := stream.block + 1, pending := words.tail })

/-- One step of the generator that spreads a seed over the key: its next state and a key word. -/
def spread (state : UInt64) : UInt32 × UInt64 :=
  let state := state * 6364136223846793005 + 11634580027462260723
  let word := (((state >>> 18) ^^^ state) >>> 27).toUInt32
  let amount := (state >>> 59).toUInt32
  ((word >>> amount) ||| (word <<< (32 - amount)), state)

def ofSeed (seed : UInt64) : Stream :=
  let (k0, state) := spread seed
  let (k1, state) := spread state
  let (k2, state) := spread state
  let (k3, state) := spread state
  let (k4, state) := spread state
  let (k5, state) := spread state
  let (k6, state) := spread state
  let (k7, _) := spread state
  { keyLow := ⟨k0, k1, k2, k3⟩, keyHigh := ⟨k4, k5, k6, k7⟩, block := 0, pending := [] }

end Stream

end Polycore.Random
