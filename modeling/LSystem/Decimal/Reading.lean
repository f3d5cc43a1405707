import LSystem.Decimal.Numeral

/-!
# Reading numbers of single precision

A number on a command line may leave out the digits on one side of its point, may have a
sign and a power of ten, or may be one of the words for infinity and for no number. The
result is the number of single precision nearest to what is written.

Numbers far beyond the range are not computed: what is above `10 ^ 60` is infinite and
what is below `10 ^ -60` is zero (`cap`). A power of ten is read up to a limit only
(`powerSize`), which shows when the digits before it are many enough to make up for it.
-/

namespace LSystem.Decimal

/-- All characters of a text as digits. -/
def allDigits? (text : List Char) : Option (List Digit) :=
  match splitDigits [] text with
  | (ds, []) => some ds
  | _ => none

/-- The size at which a power of ten is no longer read on. -/
def powerLimit : Nat := 65536

/-- The size of a power of ten. Its digits are read until the size has reached the limit, and
the digits behind them change nothing: `700000` has the size of `70000`. -/
def powerSize (ds : List Digit) : Nat :=
  ds.foldl (fun n d => if n < powerLimit then 10 * n + d.val else n) 0

/-- The power of ten that a text is. -/
def power? : List Char → Option Int
  | [] => some 0
  | c :: rest =>
    if c = 'e' ∨ c = 'E' then
      let (negative, rest) :=
        match rest with
        | '-' :: rest => (true, rest)
        | '+' :: rest => (false, rest)
        | rest => (false, rest)
      match allDigits? rest with
      | some (d :: ds) =>
        let size : Int := powerSize (d :: ds)
        some (if negative then -size else size)
      | _ => none
    else none

/-- The greatest power of ten that is computed. -/
def cap : Int := 60

/-- So many digits decide on the nearest number. The numbers halfway between two neighbours of
single precision have at most 113 digits, so that of further digits it only counts whether
there is another one than zero. -/
def decisive : Nat := 200

/-- Significant digits, shortened to those that decide and one more that stands for the others,
and the number of digits that this leaves out. -/
def shorten (ds : List Digit) : List Digit × Nat :=
  match ds.drop decisive with
  | [] => (ds, 0)
  | _ :: others =>
    let last : Digit := if (ds.drop decisive).all (· = .zero) then .zero else ⟨1, by decide⟩
    (ds.take decisive ++ [last], others.length)

/-- The number of single precision nearest to what digits write, times a power of ten. -/
def nearestSingle (ds : List Digit) (power : Int) : Float32 :=
  let ds := ds.dropWhile (· = .zero)
  let size : Int := power + ds.length
  if ds.isEmpty ∨ size < -cap then 0
  else if cap < size then 1 / 0
  else
    let (ds, omitted) := shorten ds
    let power := power + omitted
    Float32.ofScientific (value ds) (power < 0) power.natAbs

/-- The number that an unsigned text of digits writes. -/
def unsignedSingle? (text : List Char) : Option Float32 := do
  let (whole, rest) := splitDigits [] text
  let (fraction, rest) :=
    match rest with
    | '.' :: rest => splitDigits [] rest
    | rest => ([], rest)
  if whole.isEmpty ∧ fraction.isEmpty then none
  let power ← power? rest
  return nearestSingle (whole ++ fraction) (power - fraction.length)

/-- The number that an unsigned text writes, in digits or as a word. -/
def sizeOf? (text : List Char) : Option Float32 :=
  let word := String.ofList (text.map Char.toLower)
  if word = "inf" ∨ word = "infinity" then some (1 / 0)
  else if word = "nan" then some (0 / 0)
  else unsignedSingle? text

/-- **The number that a text writes.** -/
def single? (text : String) : Option Float32 :=
  match text.toList with
  | '-' :: rest => (sizeOf? rest).map (-·)
  | '+' :: rest => sizeOf? rest
  | rest => sizeOf? rest

/-- The natural number that a text writes, unless it is beyond a limit; a plus sign may stand
in front. -/
def natUpTo? (limit : Nat) (text : String) : Option Nat :=
  let rest :=
    match text.toList with
    | '+' :: rest => rest
    | rest => rest
  match allDigits? rest with
  | some (d :: ds) => valueUpTo? limit (d :: ds)
  | _ => none

/-- The natural number that a text writes, which may also be zero with a minus sign. -/
def natOrMinusZeroUpTo? (limit : Nat) (text : String) : Option Nat :=
  match text.toList with
  | '-' :: rest =>
    match allDigits? rest with
    | some (d :: ds) => valueUpTo? 0 (d :: ds)
    | _ => none
  | _ => natUpTo? limit text

end LSystem.Decimal
