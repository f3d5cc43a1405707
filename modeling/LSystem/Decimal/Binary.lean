/-!
# Binary floating point, taken apart

A finite floating-point number is `mantissa · 2 ^ exponent` with a sign. This module
reads these parts off the bits of a number in an interchange format, for the two
widths in use, together with the one fact about its surroundings that the mantissa
does not show: whether the next smaller number is only half as far away as the next
greater one. That happens where the mantissa has just come down to a power of two.
-/

namespace LSystem.Decimal

/-- The widths of the fields of a binary interchange format. -/
structure BinaryFormat where
  fractionBits : Nat
  exponentBits : Nat

namespace BinaryFormat

/-- Single precision. -/
def single : BinaryFormat := ⟨23, 8⟩

/-- Double precision. -/
def double : BinaryFormat := ⟨52, 11⟩

end BinaryFormat

/-- The size of a floating-point number, its sign aside. A finite one is
`mantissa · 2 ^ exponent`, and `narrowBelow` says that its lower neighbour is half as
far away as its upper one. -/
inductive Magnitude where
  | nan
  | infinite
  | finite (mantissa : Nat) (exponent : Int) (narrowBelow : Bool)
deriving DecidableEq, Repr

/-- A floating-point number as sign and size. -/
structure Binary where
  negative : Bool
  magnitude : Magnitude
deriving DecidableEq, Repr

namespace Binary

/-- The number that a bit pattern of the format stands for. -/
def ofBits (format : BinaryFormat) (bits : Nat) : Binary :=
  let unit := Nat.pow 2 format.fractionBits
  let range := Nat.pow 2 format.exponentBits
  let fraction := bits % unit
  let biased := bits / unit % range
  let lowest : Int := 2 - (range / 2 : Nat) - format.fractionBits
  { negative := bits / (unit * range) % 2 == 1
    magnitude :=
      if biased = range - 1 then
        if fraction = 0 then .infinite else .nan
      else if biased = 0 then .finite fraction lowest false
      else .finite (unit + fraction) (lowest + (biased - 1)) (fraction == 0 && biased > 1) }

/-- The parts of a single-precision number. -/
def ofSingle (x : Float32) : Binary := ofBits .single x.toBits.toNat

/-- The parts of a double-precision number. -/
def ofDouble (x : Float) : Binary := ofBits .double x.toBits.toNat

end Binary

end LSystem.Decimal
