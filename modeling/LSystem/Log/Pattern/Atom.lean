import LSystem.Text.Character

/-!
# The atoms of patterns

A pattern is a regular expression. This module has the smallest parts of one: the modes in
which a part is read, the blanks and comments that a verbose pattern leaves out, and what
a backslash stands for with the characters behind it.

Patterns know characters by their numbers only. What would need a table of the properties
of characters is refused: properties themselves, the kinds `\d`, `\s` and `\w` outside the
byte mode, and letters for which case does not matter.
-/

namespace LSystem.Log.Pattern

/-- The modes in which a part of a pattern is read. -/
structure Modes where
  /-- Whether blanks and comments are left out. -/
  verbose : Bool := false
  /-- Whether capital and small letters are the same. -/
  caseless : Bool := false
  /-- Whether the pattern is one of characters, and not of bytes. -/
  unicode : Bool := true
deriving DecidableEq, Repr

/-- The smallest part of a pattern. -/
inductive Atom where
  /-- A character, as itself or behind a backslash. -/
  | char (c : Char)
  /-- A character by two hexadecimal digits. -/
  | byte (c : Char)
  /-- Digits, blanks or letters, or all characters other than these. -/
  | kind (negated : Bool)
  /-- The beginning or the end of a word, or that there is neither. -/
  | wordEnd
  /-- The beginning or the end of the text. -/
  | textEnd
deriving DecidableEq, Repr

/-! ### Blanks and comments -/

/-- What follows the blanks and comments at the beginning of a text. A comment goes from `#`
to the end of the line; `inside` says that the text begins in one. -/
def afterBlanks (inside : Bool) : List Char → List Char
  | [] => []
  | c :: cs =>
    if inside then afterBlanks (c ≠ '\n') cs
    else if Text.isBlank c then afterBlanks false cs
    else if c = '#' then afterBlanks true cs
    else c :: cs

/-- What follows the blanks is no longer than the text. -/
private theorem length_afterBlanks (inside : Bool) (text : List Char) :
    (afterBlanks inside text).length ≤ text.length := by
  induction text generalizing inside with
  | nil => exact Nat.le_refl _
  | cons c cs ih =>
    rw [afterBlanks]
    split
    · exact Nat.le_succ_of_le (ih _)
    · split
      · exact Nat.le_succ_of_le (ih _)
      · split
        · exact Nat.le_succ_of_le (ih _)
        · exact Nat.le_refl _

/-- What follows the part of a text that the modes leave out. -/
def Modes.skip (m : Modes) (text : List Char) : List Char :=
  if m.verbose then afterBlanks false text else text

/-- What is left of a text is no longer than the text. -/
theorem Modes.length_skip (m : Modes) (text : List Char) :
    (m.skip text).length ≤ text.length := by
  unfold Modes.skip
  split
  · exact length_afterBlanks _ _
  · exact Nat.le_refl _

/-! ### Behind a backslash -/

/-- Reads a number of hexadecimal digits, which go on from `value`. Blanks may stand between
them and behind them. -/
def hexNumber? (m : Modes) (value : Nat) : (count : Nat) → List Char → Option (Nat × List Char)
  | 0, text => some (value, text)
  | _ + 1, [] => none
  | count + 1, c :: cs => do hexNumber? m (16 * value + (← Text.hexDigit? c)) count (m.skip cs)

/-- The character with a number of so many hexadecimal digits. -/
def hexChar? (m : Modes) (count : Nat) (text : List Char) : Option (Char × List Char) := do
  let (n, rest) ← hexNumber? m 0 count (m.skip text)
  if n.isValidChar then return (Char.ofNat n, rest) else none

/-- Whether a character stands for itself behind a backslash: the characters of ASCII that are
neither letters nor digits, except for the angle brackets. -/
def standsForItself (c : Char) : Bool :=
  c.toNat < 128 && !c.isAlphanum && c ≠ '<' && c ≠ '>'

/-- The atom that a backslash and the text behind it begin with. -/
def escaped? (m : Modes) : List Char → Option (Atom × List Char)
  | [] => none
  | c :: rest =>
    if standsForItself c then some (.char c, rest)
    else
      match c with
      | 'x' => (hexChar? m 2 rest).map fun r => (.byte r.1, r.2)
      | 'u' => (hexChar? m 4 rest).map fun r => (.char r.1, r.2)
      | 'U' => (hexChar? m 8 rest).map fun r => (.char r.1, r.2)
      | 'd' | 's' | 'w' => some (.kind false, rest)
      | 'D' | 'S' | 'W' => some (.kind true, rest)
      | 'a' => some (.char '\x07', rest)
      | 'f' => some (.char '\x0c', rest)
      | 't' => some (.char '\t', rest)
      | 'n' => some (.char '\n', rest)
      | 'r' => some (.char '\r', rest)
      | 'v' => some (.char '\x0b', rest)
      | 'A' | 'z' => some (.textEnd, rest)
      | 'b' | 'B' | '<' | '>' => some (.wordEnd, rest)
      | _ => none

/-! ### Which atoms are allowed -/

/-- Whether an atom may stand in a pattern outside brackets. -/
def Modes.allows (m : Modes) : Atom → Bool
  | .char _ => !(m.caseless && m.unicode)
  | .byte c => if m.unicode then !m.caseless else c.toNat < 128
  | .kind negated => !m.unicode && !negated
  | .wordEnd => !m.unicode
  | .textEnd => true

/-- Whether any character may stand for a dot. A dot in a pattern of bytes could tear a
character apart. -/
def Modes.allowsDot (m : Modes) : Bool := m.unicode

end LSystem.Log.Pattern
