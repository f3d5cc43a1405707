/-!
# Decimal numerals

A **numeral** is a number as it is written: a sign, the digits before the point,
the digits after it, and perhaps a power of ten. It says nothing yet of the value
a reader gives it; several numerals write one value, and how near a value of
limited precision comes to what the numeral says is the reader's business.

Numerals are what a lexer cuts out of a text and what a printer of numbers makes;
`Numeral.text` writes one down. Every part of a numeral is a list of digits, so
there is no numeral with a stray character in it.
-/

namespace LSystem.Decimal

/-- A decimal digit. -/
abbrev Digit := Fin 10

/-- The digit zero. -/
def Digit.zero : Digit := ⟨0, by decide⟩

/-- The character of a digit. -/
def Digit.toChar (d : Digit) : Char := Char.ofNat (48 + d.val)

/-- The digit that a character is, if it is one of the ten ASCII digits. -/
def Digit.ofChar? (c : Char) : Option Digit :=
  if h : 48 ≤ c.toNat ∧ c.toNat < 58 then some ⟨c.toNat - 48, by omega⟩ else none

/-- Reading the character of a digit gives the digit. -/
@[simp] theorem Digit.ofChar?_toChar (d : Digit) : Digit.ofChar? d.toChar = some d := by
  revert d; decide

/-! ### Lists of digits and the numbers they write -/

/-- The number that a list of digits writes, the first digit counting most. -/
def value (ds : List Digit) : Nat := ds.foldl (fun n d => 10 * n + d.val) 0

/-- The number that the digits before and a list of digits write, those before having written
`n`, unless a limit is passed. -/
def valueOnto? (limit n : Nat) : List Digit → Option Nat
  | [] => some n
  | d :: ds => if 10 * n + d.val ≤ limit then valueOnto? limit (10 * n + d.val) ds else none

/-- The number that a list of digits writes, unless it is beyond a limit. However many digits
there are, no more of them are read than the limit has, leading zeros apart. -/
def valueUpTo? (limit : Nat) (ds : List Digit) : Option Nat := valueOnto? limit 0 ds

/-- Further digits make a number no smaller. -/
private theorem le_foldl_value (n : Nat) (ds : List Digit) :
    n ≤ ds.foldl (fun n d => 10 * n + d.val) n := by
  induction ds generalizing n with
  | nil => exact Nat.le_refl _
  | cons d ds ih =>
    have := ih (10 * n + d.val)
    simp only [List.foldl_cons]
    omega

private theorem valueOnto?_eq {limit n : Nat} (hn : n ≤ limit) (ds : List Digit) :
    valueOnto? limit n ds =
      if ds.foldl (fun n d => 10 * n + d.val) n ≤ limit then
        some (ds.foldl (fun n d => 10 * n + d.val) n)
      else none := by
  induction ds generalizing n with
  | nil => simp [valueOnto?, hn]
  | cons d ds ih =>
    rw [valueOnto?, List.foldl_cons]
    by_cases h : 10 * n + d.val ≤ limit
    · rw [if_pos h, ih h]
    · have := le_foldl_value (10 * n + d.val) ds
      rw [if_neg h, if_neg (by omega)]

/-- What is read up to a limit is the number, when that is within the limit. -/
theorem valueUpTo?_eq (limit : Nat) (ds : List Digit) :
    valueUpTo? limit ds = if value ds ≤ limit then some (value ds) else none :=
  valueOnto?_eq (Nat.zero_le _) ds

/-- The digits of `n` followed by `acc`. -/
def digitsOnto (n : Nat) (acc : List Digit) : List Digit :=
  let acc := ⟨n % 10, Nat.mod_lt n (by decide)⟩ :: acc
  if h : n < 10 then acc else digitsOnto (n / 10) acc
termination_by n
decreasing_by omega

/-- The digits of a number, without leading zeros; zero has the one digit `0`. -/
def digits (n : Nat) : List Digit := digitsOnto n []

/-- A list of digits as text. -/
def textOf (ds : List Digit) : List Char := ds.map Digit.toChar

/-- The digits that a text begins with, behind those in `taken` (the last one first), and what
follows them. -/
def splitDigits (taken : List Digit) : List Char → List Digit × List Char
  | [] => (taken.reverse, [])
  | c :: rest =>
    match Digit.ofChar? c with
    | some d => splitDigits (d :: taken) rest
    | none => (taken.reverse, c :: rest)

/-- What follows the digits is no longer than the text. -/
theorem length_splitDigits (taken : List Digit) (text : List Char) :
    (splitDigits taken text).2.length ≤ text.length := by
  induction text generalizing taken with
  | nil => exact Nat.le_refl _
  | cons c rest ih =>
    rw [splitDigits]
    split
    · exact Nat.le_succ_of_le (ih _)
    · exact Nat.le_refl _

/-- A natural number as decimal text. -/
def natText (n : Nat) : String := String.ofList (textOf (digits n))

/-! ### Numerals -/

/-- The sign in front of a power of ten: it may be left out. -/
inductive Sign where
  | none
  | plus
  | minus
deriving DecidableEq, Repr

/-- The characters of a sign. -/
def Sign.text : Sign → List Char
  | .none => []
  | .plus => ['+']
  | .minus => ['-']

/-- **A numeral.** `fraction` is empty when there is no point; `exponent` is the
signed power of ten behind an `e`, when there is one. -/
structure Numeral where
  negative : Bool
  whole : List Digit
  fraction : List Digit
  exponent : Option (Sign × List Digit)
deriving DecidableEq, Repr

namespace Numeral

/-- The numeral of a natural number. -/
def ofNat (n : Nat) : Numeral := ⟨false, digits n, [], none⟩

/-- A numeral as characters: the point stands only before digits, and the power of
ten is marked by `e`. -/
def chars (n : Numeral) : List Char :=
  (if n.negative then ['-'] else []) ++ textOf n.whole
    ++ (if n.fraction.isEmpty then [] else '.' :: textOf n.fraction)
    ++ match n.exponent with
      | none => []
      | some (sign, ds) => 'e' :: (sign.text ++ textOf ds)

/-- A numeral as text. -/
def text (n : Numeral) : String := String.ofList n.chars

/-- Whether the numeral has neither a point nor a power of ten. -/
def isIntegral (n : Numeral) : Bool := n.fraction.isEmpty && n.exponent.isNone

end Numeral

end LSystem.Decimal
