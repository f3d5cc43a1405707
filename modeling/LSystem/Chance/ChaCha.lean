/-!
# The ChaCha generator

A generator of random words: the ChaCha stream with twelve rounds. The state of the
cipher is a square of sixteen words, here four rows. A round mixes the columns of the
square (`Square.mix`), and every second round mixes its diagonals, which are columns once
the rows have been turned by zero, one, two and three places. A block of the stream is
the square after the rounds, added to the square before.

The key is made from a seed of 64 bits by a congruential generator whose output is folded
and rotated (`keyWords`); the blocks are counted from zero.
-/

namespace LSystem.Chance

/-- Four words. -/
structure Row where
  a : UInt32
  b : UInt32
  c : UInt32
  d : UInt32
deriving DecidableEq, Repr

/-- Turns the bits of a word to the left. -/
def rotate (x : UInt32) (n : UInt32) : UInt32 := (x <<< n) ||| (x >>> (32 - n))

namespace Row

/-- The sums of the words of two rows. -/
def add (r s : Row) : Row := ⟨r.a + s.a, r.b + s.b, r.c + s.c, r.d + s.d⟩

/-- The words of two rows, added bit by bit and then turned to the left. -/
def xorRotate (n : UInt32) (r s : Row) : Row :=
  ⟨rotate (r.a ^^^ s.a) n, rotate (r.b ^^^ s.b) n, rotate (r.c ^^^ s.c) n,
    rotate (r.d ^^^ s.d) n⟩

/-- The row, one place to the left. -/
def turn (r : Row) : Row := ⟨r.b, r.c, r.d, r.a⟩

/-- The words of a row. -/
def toList (r : Row) : List UInt32 := [r.a, r.b, r.c, r.d]

end Row

/-- The state of the cipher. -/
structure Square where
  first : Row
  second : Row
  third : Row
  fourth : Row
deriving DecidableEq, Repr

namespace Square

/-- Mixes the columns. -/
def mix (s : Square) : Square :=
  let a := s.first.add s.second
  let d := Row.xorRotate 16 s.fourth a
  let c := s.third.add d
  let b := Row.xorRotate 12 s.second c
  let a := a.add b
  let d := Row.xorRotate 8 d a
  let c := c.add d
  let b := Row.xorRotate 7 b c
  ⟨a, b, c, d⟩

/-- Makes columns of the diagonals. -/
def slant (s : Square) : Square :=
  ⟨s.first, s.second.turn, s.third.turn.turn, s.fourth.turn.turn.turn⟩

/-- Makes diagonals of the columns. -/
def unslant (s : Square) : Square :=
  ⟨s.first, s.second.turn.turn.turn, s.third.turn.turn, s.fourth.turn⟩

/-- Two rounds: the columns, then the diagonals. -/
def twoRounds (s : Square) : Square := s.mix.slant.mix.unslant

/-- The given number of pairs of rounds. -/
def rounds (s : Square) : Nat → Square
  | 0 => s
  | n + 1 => s.twoRounds.rounds n

/-- The sums of the words of two squares. -/
def add (s t : Square) : Square :=
  ⟨s.first.add t.first, s.second.add t.second, s.third.add t.third, s.fourth.add t.fourth⟩

/-- The words of a square. -/
def toList (s : Square) : List UInt32 :=
  s.first.toList ++ s.second.toList ++ s.third.toList ++ s.fourth.toList

end Square

/-- The first row of every square. -/
def constants : Row := ⟨0x61707865, 0x3320646e, 0x79622d32, 0x6b206574⟩

/-- A key of 256 bits. -/
structure Key where
  low : Row
  high : Row
deriving DecidableEq, Repr

/-- A block of the stream. -/
def Key.block (k : Key) (count : UInt64) : List UInt32 :=
  let start : Square :=
    ⟨constants, k.low, k.high, ⟨count.toUInt32, (count >>> 32).toUInt32, 0, 0⟩⟩
  ((start.rounds 6).add start).toList

/-! ### Keys from seeds -/

/-- The next state of the generator of keys. -/
def nextState (state : UInt64) : UInt64 := state * 6364136223846793005 + 11634580027462260723

/-- The word that a state of the generator of keys gives. -/
def stateWord (state : UInt64) : UInt32 :=
  let folded := (((state >>> 18) ^^^ state) >>> 27).toUInt32
  let turns := (state >>> 59).toUInt32
  (folded >>> turns) ||| (folded <<< ((32 - turns) % 32))

/-- Four words of a key, and the state behind them. -/
def keyWords (state : UInt64) : Row × UInt64 :=
  let s₁ := nextState state
  let s₂ := nextState s₁
  let s₃ := nextState s₂
  let s₄ := nextState s₃
  (⟨stateWord s₁, stateWord s₂, stateWord s₃, stateWord s₄⟩, s₄)

/-- The key of a seed. -/
def Key.ofSeed (seed : UInt64) : Key :=
  let (low, state) := keyWords seed
  ⟨low, (keyWords state).1⟩

/-! ### Generators -/

/-- **A generator of random words:** the words that are left of a block, and the number of
the next one. -/
structure Generator where
  key : Key
  count : UInt64
  left : List UInt32
deriving DecidableEq, Repr

namespace Generator

/-- The generator of a seed. -/
def ofSeed (seed : UInt64) : Generator := ⟨.ofSeed seed, 0, []⟩

/-- The next word. -/
def next (g : Generator) : UInt32 × Generator :=
  match g.left with
  | w :: ws => (w, { g with left := ws })
  | [] =>
    match g.key.block g.count with
    | w :: ws => (w, ⟨g.key, g.count + 1, ws⟩)
    | [] => (0, g)

end Generator

end LSystem.Chance
