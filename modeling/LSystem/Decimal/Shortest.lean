import LSystem.Decimal.Binary
import LSystem.Decimal.Numeral

/-!
# The shortest decimal that reads back

Every real number nearer to a floating-point number `x` than to its neighbours reads
back as `x`; these numbers form an interval around `x`, and its two ends belong to it
exactly when the mantissa of `x` is even, since a reader sends a tie to the even
mantissa. Of the decimals in this interval `shortest` gives one with the fewest digits,
and of those the nearest to `x`.

For one digit, two digits and so on, the decimals with that many digits form a grid.
If any of its points lies in the interval, so does one of the two points next to `x`;
so only these two are tested, in exact arithmetic on natural numbers. Where both lie
in the interval equally far from `x`, a `Tie` decides.
-/

namespace LSystem.Decimal

/-- What becomes of a number halfway between two decimals. -/
inductive Tie where
  /-- The decimal with the even last digit is taken. -/
  | toEven
  /-- The greater decimal is taken. -/
  | up
deriving DecidableEq, Repr

/-- A positive decimal `0.d₁d₂… · 10 ^ (leading + 1)`: its digits, the first one being
worth `10 ^ leading`. -/
structure Scientific where
  digits : List Digit
  leading : Int
deriving DecidableEq, Repr

namespace Shortest

/-- A positive fraction with the ends of the interval around it, over one denominator. -/
structure Span where
  low : Nat
  mid : Nat
  high : Nat
  denominator : Nat
  closed : Bool

/-- The interval of the reals that read back as `mantissa · 2 ^ exponent`. -/
def Span.ofFinite (mantissa : Nat) (exponent : Int) (narrowBelow : Bool) : Span :=
  let scale := Nat.pow 2 (exponent - 2).toNat
  { low := (4 * mantissa - if narrowBelow then 1 else 2) * scale
    mid := 4 * mantissa * scale
    high := (4 * mantissa + 2) * scale
    denominator := Nat.pow 2 (2 - exponent).toNat
    closed := mantissa % 2 == 0 }

/-- The power of ten that the first digit of `mid / denominator` is worth. -/
def Span.leading (s : Span) : Int :=
  if s.denominator ≤ s.mid then (digits (s.mid / s.denominator)).length - 1
  else -((digits ((s.denominator - 1) / s.mid)).length : Int)

/-- The span in units of `10 ^ unit`. -/
def Span.inUnits (s : Span) (unit : Int) : Span :=
  let up := Nat.pow 10 (-unit).toNat
  { s with
    low := s.low * up
    mid := s.mid * up
    high := s.high * up
    denominator := s.denominator * Nat.pow 10 unit.toNat }

/-- Whether the whole number `n` lies in the span. -/
def Span.holds (s : Span) (n : Nat) : Bool :=
  let n := n * s.denominator
  if s.closed then s.low ≤ n && n ≤ s.high else s.low < n && n < s.high

/-- The better of the two whole numbers next to the middle of the span, if one of them
lies in it. -/
def Span.nearest? (tie : Tie) (s : Span) : Option Nat :=
  let below := s.mid / s.denominator
  let rest := s.mid % s.denominator
  -- Which of the two is nearer, should both lie in the span.
  let upward : Bool :=
    if 2 * rest = s.denominator then
      match tie with
      | .toEven => below % 2 == 1
      | .up => true
    else s.denominator < 2 * rest
  match s.holds below, s.holds (below + 1) with
  | true, true => some (if upward then below + 1 else below)
  | true, false => some below
  | false, true => some (below + 1)
  | false, false => none

/-- Searches the grids of decimals with `count`, `count + 1`, … digits, `fuel` of them. -/
def search (tie : Tie) (s : Span) (leading : Int) : (fuel count : Nat) → Option (Nat × Int)
  | 0, _ => none
  | fuel + 1, count =>
    let unit := leading + 1 - count
    match (s.inUnits unit).nearest? tie with
    | some n => some (n, unit)
    | none => search tie s leading fuel (count + 1)

end Shortest

/-- A whole number of units `10 ^ unit` as digits, without zeros at the end. -/
def Scientific.ofUnits (n : Nat) (unit : Int) : Scientific :=
  let ds := Decimal.digits n
  { digits := (ds.reverse.dropWhile (· == .zero)).reverse
    leading := unit + (ds.length - 1) }

/-- **The shortest decimal** that reads back as the positive number
`mantissa · 2 ^ exponent`. Seventeen digits tell any two doubles apart, so the search
among eighteen grids comes to an end. -/
def shortest (tie : Tie) (mantissa : Nat) (exponent : Int) (narrowBelow : Bool) : Scientific :=
  let s := Shortest.Span.ofFinite mantissa exponent narrowBelow
  match Shortest.search tie s s.leading 18 1 with
  | some (n, unit) => .ofUnits n unit
  | none => ⟨[], 0⟩

end LSystem.Decimal
