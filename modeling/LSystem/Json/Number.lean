import LSystem.Decimal.Layout
import LSystem.Json.Fault

/-!
# The numbers that numerals stand for

A numeral without a point or a power of ten stands for an integer when that fits into
64 bits, with the exception of `-0`; every other numeral stands for a double. The double
is found in three steps. As many leading digits as fit into 64 bits make a whole number;
the digits beyond them count for their places only, or for nothing behind the point; and
one multiplication or division by a power of ten puts the point where it belongs. Each
step may round, so the double can be a neighbour of the nearest one. A numeral whose
double would be infinite is out of range.

For output, numbers of single precision are written with the fewest digits that read
back (`singleLayout`), and so are the doubles that messages quote (`doubleLayout`).
-/

namespace LSystem.Json

open LSystem.Decimal

/-- A number as a JSON text gives it. -/
inductive Number where
  | natural (n : UInt64)
  | negative (i : Int64)
  | double (x : Float)

namespace Number

/-- The largest number of 64 bits. -/
def maxNatural : Nat := 18446744073709551615

/-! ### Significand and power of ten -/

/-- Reads on digits before the point, as long as the result fits into 64 bits; the second
part of the answer is the number of digits that no longer fitted. -/
def takeWhole (significand : Nat) : List Digit → Nat × Nat
  | [] => (significand, 0)
  | d :: ds =>
    let next := 10 * significand + d.val
    if next ≤ maxNatural then takeWhole next ds else (significand, (d :: ds).length)

/-- Reads on digits after the point in the same way; here the second part is the number of
digits that were taken, and the digits that no longer fit are dropped. -/
def takeFraction (significand taken : Nat) : List Digit → Nat × Nat
  | [] => (significand, taken)
  | d :: ds =>
    let next := 10 * significand + d.val
    if next ≤ maxNatural then takeFraction next (taken + 1) ds else (significand, taken)

/-- The greatest size of a negative number of 64 bits. -/
def maxNegative : Nat := 9223372036854775808

/-- The double nearest to a power of ten. -/
def tenTo (n : Nat) : Float := Float.ofScientific 1 false n

/-- Divides by a power of ten, `10 ^ 308` at a time. -/
def lower (x : Float) (n : Nat) : Float :=
  if n ≤ 308 then x / tenTo n
  else if x == 0 then x
  else lower (x / tenTo 308) (n - 308)
termination_by n

/-- A whole number times a power of ten, unless it is too large for a double. -/
def scaled (significand : Nat) (power : Int) : Except Fault Float :=
  let x := significand.toUInt64.toFloat
  match power with
  | .ofNat n =>
    if n ≤ 308 then
      let y := x * tenTo n
      if y.isInf then .error .numberTooLarge else .ok y
    else if x == 0 then .ok x
    else .error .numberTooLarge
  | .negSucc n => .ok (lower x (n + 1))

/-- The largest power of ten that a numeral can ask for. -/
def maxPower : Nat := 2147483647

/-- The size of the double that a numeral stands for. -/
def doubleOf (n : Numeral) : Except Fault Float :=
  let (significand, beyond) := takeWhole 0 n.whole
  let (significand, behind) := takeFraction significand 0 n.fraction
  let place : Int := beyond - behind
  match n.exponent with
  | none => scaled significand place
  | some (sign, ds) =>
    match valueUpTo? maxPower ds with
    | some e => scaled significand (if sign = .minus then place - e else place + e)
    | none =>
      -- A power beyond all bounds leaves zero, unless it makes the number too large.
      if significand ≠ 0 ∧ sign ≠ .minus then .error .numberTooLarge else .ok 0

/-- The integer that a numeral stands for, if it stands for one. -/
def integer? (n : Numeral) : Option Number :=
  if !n.isIntegral then none
  else if n.negative then
    match valueUpTo? maxNegative n.whole with
    | none | some 0 => none
    | some size => some (.negative (Int64.ofInt (-size)))
  else (valueUpTo? maxNatural n.whole).map (.natural ·.toUInt64)

/-- **The number that a numeral stands for,** unless it is out of range. -/
def ofNumeral (n : Numeral) : Except Fault Number :=
  match integer? n with
  | some i => .ok i
  | none => do
    let x ← doubleOf n
    return .double (if n.negative then -x else x)

/-- A double in single precision: the nearest such number, and of two the one with the even
mantissa. -/
def roundToSingle (x : Float) : Float32 :=
  .ofModel <| .pack <|
    match x.toModel.unpack with
    | .finite sign mantissa exponent _ => .round .binary32 sign mantissa exponent
    | unrounded => unrounded

/-- The number in single precision. Integers are rounded once, straight from the integer. -/
def toSingle : Number → Float32
  | .natural n => n.toFloat32
  | .negative i => i.toFloat32
  | .double x => roundToSingle x

/-! ### Output -/

/-- Numbers of single precision have a point, and a power of ten below `10 ^ -6` and
from `10 ^ 13` on. -/
def singleLayout : Layout where
  tie := .toEven
  positional e := -6 ≤ e && e ≤ 12
  point := true
  plus := .plus

/-- Doubles have a point, and a power of ten below `10 ^ -5` and from `10 ^ 16` on. -/
def doubleLayout : Layout where
  tie := .toEven
  positional e := -5 ≤ e && e ≤ 15
  point := true
  plus := .plus

/-- What a message says was found. -/
def found : Number → Found
  | .natural n => .integer n.toNat
  | .negative i => .integer i.toInt
  | .double x =>
    match doubleLayout.numeral? (.ofDouble x) with
    | some n => .decimal n
    | none => .null

end Number

end LSystem.Json
