import LSystem.Decimal.Shortest

/-!
# How a number is laid out

The digits of a number and the place of its point are one matter, how they are set on
the page another. A `Layout` is one way to set them: which powers of ten are written
out with the point in its place and which are split off behind an `e`, whether a whole
number shows a `.0`, and whether a positive power shows its sign. Each kind of output
has its own layout, given where that output is made. Here is the one of running text
(`plainText`): the fewest digits that read back, never a power of ten, and no point in a
whole number.
-/

namespace LSystem.Decimal

/-- One way to write numbers. -/
structure Layout where
  /-- How halves go when there are two shortest decimals. -/
  tie : Tie
  /-- The powers of ten of the first digit for which no power is split off. -/
  positional : Int → Bool
  /-- Whether a whole number ends in `.0`. -/
  point : Bool
  /-- The sign of a positive power. -/
  plus : Sign

namespace Layout

/-- The digits after the point of a whole number. -/
def wholeFraction (layout : Layout) : List Digit := if layout.point then [.zero] else []

/-- A decimal with its point in its place. -/
def place (layout : Layout) (negative : Bool) (s : Scientific) : Numeral :=
  if 0 ≤ s.leading then
    let wide := s.leading.toNat + 1
    if s.digits.length ≤ wide then
      let zeros := List.replicate (wide - s.digits.length) .zero
      ⟨negative, s.digits ++ zeros, layout.wholeFraction, none⟩
    else ⟨negative, s.digits.take wide, s.digits.drop wide, none⟩
  else ⟨negative, [.zero], List.replicate ((-s.leading).toNat - 1) .zero ++ s.digits, none⟩

/-- A decimal with one digit before the point and the power of ten behind an `e`. -/
def split (layout : Layout) (negative : Bool) (s : Scientific) : Numeral :=
  let sign := if s.leading < 0 then .minus else layout.plus
  ⟨negative, s.digits.take 1, s.digits.drop 1, some (sign, digits s.leading.natAbs)⟩

/-- **The numeral of a number,** if it is finite. -/
def numeral? (layout : Layout) (x : Binary) : Option Numeral :=
  match x.magnitude with
  | .nan | .infinite => none
  | .finite 0 _ _ => some ⟨x.negative, [.zero], layout.wholeFraction, none⟩
  | .finite mantissa exponent narrowBelow =>
    let s := shortest layout.tie mantissa exponent narrowBelow
    some (if layout.positional s.leading then layout.place x.negative s
      else layout.split x.negative s)

end Layout

/-- Numbers in running text. -/
def plainLayout : Layout where
  tie := .up
  positional _ := true
  point := false
  plus := .none

/-- A number of single precision in running text. -/
def plainText (x : Float32) : String :=
  let parts := Binary.ofSingle x
  match plainLayout.numeral? parts with
  | some n => n.text
  | none =>
    if parts.magnitude = .nan then "NaN"
    else if parts.negative then "-inf"
    else "inf"

end LSystem.Decimal
