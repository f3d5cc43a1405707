import LSystem.Curve.Trace
import LSystem.Error

/-!
# Curve buffers

A buffer holds curves the way a renderer takes them: the number of vertices of each
curve, and the coordinates of all vertices and normals one after the other, three numbers
for a vertex.

The numbers of vertices are words of 64 bits. What becomes of a sum or a product that has no
word is a matter of how the program has been built (`Overflow`): in a build for release it
wraps around, in any other build the program stops.

To validate a buffer is to compare the sum of its counts with the number of stored vertices
(`validate`, and `validate?` for either build). The coordinates are cut into curves by adding
up the counts once more (`curves?`, and `cut?` for either build), and the program stops as
well when a curve would reach beyond the stored coordinates. Where the program stops, the
functions of this module give nothing.
-/

namespace LSystem.Curve

/-- What becomes of a sum or a product of words that has no word itself. -/
inductive Overflow where
  /-- It wraps around. -/
  | wraps
  /-- The program stops. -/
  | stops
deriving DecidableEq, Repr

namespace Overflow

/-- The word in which a sum or a product of words ends up. -/
def word? (o : Overflow) (n : Nat) : Option UInt64 :=
  match o with
  | .wraps => some (UInt64.ofNat n)
  | .stops => if n < UInt64.size then some (UInt64.ofNat n) else none

/-- The sum of two words. -/
def add (o : Overflow) (x y : UInt64) : Option UInt64 := o.word? (x.toNat + y.toNat)

/-- The product of two words. -/
def mul (o : Overflow) (x y : UInt64) : Option UInt64 := o.word? (x.toNat * y.toNat)

variable {o : Overflow} {m n : Nat}

theorem word?_of_lt (h : n < UInt64.size) : o.word? n = some (UInt64.ofNat n) := by
  cases o with
  | wraps => rfl
  | stops => exact if_pos h

theorem eq_ofNat_of_word? {w : UInt64} (h : o.word? n = some w) : w = UInt64.ofNat n := by
  cases o with
  | wraps => exact (Option.some.inj h).symm
  | stops => exact (Option.some.inj (Option.ite_none_right_eq_some.1 h).2).symm

theorem eq_add_of_add {x y z : UInt64} (h : o.add x y = some z) : z = x + y := by
  rw [eq_ofNat_of_word? h, UInt64.ofNat_add, UInt64.ofNat_toNat, UInt64.ofNat_toNat]

theorem eq_mul_of_mul {x y z : UInt64} (h : o.mul x y = some z) : z = x * y := by
  rw [eq_ofNat_of_word? h, UInt64.ofNat_mul, UInt64.ofNat_toNat, UInt64.ofNat_toNat]

theorem add_ofNat (h : m + n < UInt64.size) :
    o.add (UInt64.ofNat m) (UInt64.ofNat n) = some (UInt64.ofNat (m + n)) := by
  rw [add, UInt64.toNat_ofNat_of_lt' (by omega), UInt64.toNat_ofNat_of_lt' (by omega),
    word?_of_lt h]

theorem mul_three (h : 3 * n < UInt64.size) :
    o.mul (UInt64.ofNat n) 3 = some (UInt64.ofNat (3 * n)) := by
  have hthree : (3 : UInt64).toNat = 3 := rfl
  rw [mul, UInt64.toNat_ofNat_of_lt' (by omega), hthree, Nat.mul_comm, word?_of_lt h]

end Overflow

/-- Curves for a renderer. -/
structure Buffer where
  vertexCounts : Array UInt64
  positions : Array Float32
  normals : Array Float32
  width : Float32
deriving DecidableEq, Repr

/-- The coordinates of one curve. -/
structure Slice where
  positions : List Float32
  normals : List Float32
deriving DecidableEq, Repr

namespace Buffer

/-- A buffer without curves. -/
def empty (width : Float32) : Buffer := ⟨#[], #[], #[], width⟩

/-- The number of curves. -/
def curveCount (b : Buffer) : Nat := b.vertexCounts.size

/-- The number of stored vertices. -/
def vertexCount (b : Buffer) : Nat := b.positions.size / 3

/-- The sum of the vertex counts, as a word around which it wraps. -/
def countedVertices (b : Buffer) : UInt64 := b.vertexCounts.foldl (· + ·) 0

/-- The sum of the vertex counts, unless the program stops at it. -/
def countedVertices? (o : Overflow) (b : Buffer) : Option UInt64 :=
  b.vertexCounts.toList.foldlM o.add 0

/-- **Whether a sum of counts accounts for the stored coordinates:** it is the number of stored
vertices, no vertex lacks a coordinate, and every vertex has a normal. -/
def accountsFor (b : Buffer) (counted : UInt64) : Bool :=
  counted == b.vertexCount.toUInt64 && b.positions.size % 3 == 0
    && b.normals.size == b.positions.size

/-- Refuses a buffer if a sum of counts does not account for its coordinates. -/
def judge (b : Buffer) (counted : UInt64) : Except Error Unit :=
  if b.accountsFor counted then .ok () else .error (.topology counted b.vertexCount)

theorem judge_eq_ok_iff {b : Buffer} {counted : UInt64} :
    b.judge counted = .ok () ↔ b.accountsFor counted := by
  unfold judge
  split <;> simp [*]

/-- Whether the counts account for the stored coordinates, where their sum may wrap around. -/
def isValid (b : Buffer) : Bool := b.accountsFor b.countedVertices

/-- Refuses a buffer whose counts do not account for its coordinates, where their sum may wrap
around. -/
def validate (b : Buffer) : Except Error Unit := b.judge b.countedVertices

/-- **Validates a buffer,** unless the program stops at the sum of its counts. -/
def validate? (o : Overflow) (b : Buffer) : Option (Except Error Unit) :=
  (b.countedVertices? o).map b.judge

/-- The numbers of an array from one index up to another, if these are in order and within
the array. -/
def slice? (xs : Array Float32) (first last : UInt64) : Option (List Float32) :=
  if first ≤ last ∧ last.toNat ≤ xs.size then some (xs.extract first.toNat last.toNat).toList
  else none

/-- Cuts curves off behind the first `offset` vertices. -/
def curvesFrom? (o : Overflow) (b : Buffer) (offset : UInt64) :
    List UInt64 → Option (List Slice)
  | [] => some []
  | count :: counts => do
    let first ← o.mul offset 3
    let next ← o.add offset count
    let last ← o.mul next 3
    let positions ← slice? b.positions first last
    let normals ← slice? b.normals first last
    let others ← b.curvesFrom? o next counts
    return ⟨positions, normals⟩ :: others

/-- **The curves of a buffer,** unless the program stops at one of them. -/
def cut? (o : Overflow) (b : Buffer) : Option (List Slice) :=
  b.curvesFrom? o 0 b.vertexCounts.toList

/-- The curves of a buffer, unless one of them reaches beyond the coordinates. -/
def curves? (b : Buffer) : Option (List Slice) := b.cut? .wraps

end Buffer

end LSystem.Curve
