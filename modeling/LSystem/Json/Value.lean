import LSystem.Json.Number

/-!
# JSON values

The values that a JSON text can spell, and the compact text of a value: no blanks, members
in the order in which they are given, and escapes in strings only where they are needed.
Plain data are values as well; numbers of single precision that are not finite have no
numeral and are written as `null`.
-/

namespace LSystem.Json

open LSystem.Decimal

/-- A JSON value. A number is kept as it is written. -/
inductive Value where
  | null
  | bool (b : Bool)
  | number (n : Numeral)
  | string (s : String)
  | list (items : List Value)
  | object (members : List (String × Value))

/-- A hexadecimal digit as a character. -/
def hexChar (n : Nat) : Char := Char.ofNat (if n < 10 then 48 + n else 87 + n)

/-- One character of a string, escaped if it is a quote, a backslash or a control
character. -/
def escape (c : Char) : List Char :=
  match c with
  | '"' => ['\\', '"']
  | '\\' => ['\\', '\\']
  | '\x08' => ['\\', 'b']
  | '\x0c' => ['\\', 'f']
  | '\n' => ['\\', 'n']
  | '\r' => ['\\', 'r']
  | '\t' => ['\\', 't']
  | c =>
    if c < ' ' then ['\\', 'u', '0', '0', hexChar (c.toNat / 16), hexChar (c.toNat % 16)]
    else [c]

/-- A string between quotes. -/
def stringChars (s : String) : List Char := '"' :: (s.toList.flatMap escape ++ ['"'])

namespace Value

/-- Puts characters behind a text. -/
def put (text : String) (cs : List Char) : String := cs.foldl String.push text

/-- Puts a comma behind a text, unless this is the first element. -/
def separate (first : Bool) (text : String) : String := if first then text else text.push ','

mutual

/-- Writes a value behind a text. -/
def writeOnto (text : String) : Value → String
  | .null => text ++ "null"
  | .bool b => text ++ if b then "true" else "false"
  | .number n => put text n.chars
  | .string s => put text (stringChars s)
  | .list items => (writeItems true (text.push '[') items).push ']'
  | .object members => (writeMembers true (text.push '\x7b') members).push '\x7d'

/-- Writes the items of a list behind a text. -/
def writeItems (first : Bool) (text : String) : List Value → String
  | [] => text
  | v :: vs => writeItems false (writeOnto (separate first text) v) vs

/-- Writes the members of an object behind a text. -/
def writeMembers (first : Bool) (text : String) : List (String × Value) → String
  | [] => text
  | (key, v) :: ms =>
    writeMembers false (writeOnto ((put (separate first text) (stringChars key)).push ':') v) ms

end

/-- **The text of a value.** -/
def text (v : Value) : String := writeOnto "" v

/-! ### Plain data -/

/-- A natural number. -/
def ofNat (n : Nat) : Value := .number (.ofNat n)

/-- A number of single precision. -/
def ofSingle (x : Float32) : Value :=
  match Number.singleLayout.numeral? (.ofSingle x) with
  | some n => .number n
  | none => .null

/-- Numbers of single precision, one after the other. -/
def ofSingles (xs : List Float32) : Value := .list (xs.map ofSingle)

end Value

end LSystem.Json
