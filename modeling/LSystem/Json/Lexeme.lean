import LSystem.Json.Fault
import LSystem.Text.Character

/-!
# The lexemes of a JSON text

A text falls into brackets, commas, colons, words, numerals and strings, with blanks
between them. Where it stops doing so, the rest of the text is one last lexeme `broken`,
which keeps what there is to say about the place. That depends on how the text is read:
a reader that wants the value there, one that only passes over it and one that looks for
the name of an alternative report the same place in different words. A `Break` has the
three of them.

A string may be lexically whole and still spell no text, since a `\u` escape gives
16 bits at a time and half of a surrogate pair is no character. Such a string is a
lexeme with the fault in place of its text; only a reader that wants the text sees it.
-/

namespace LSystem.Json

open LSystem.Decimal

/-- A place where a text stops being JSON, as reported by a reader that wants the value,
by one that passes over it, and by one that looks for the name of an alternative. -/
structure Break where
  read : Fault
  skip : Fault
  choose : Fault
deriving DecidableEq

/-- A break that every reader reports in the same way. -/
def Break.same (f : Fault) : Break := ⟨f, f, f⟩

/-- The text of a string, or the fault that keeps it from being one. -/
abbrev Spelling := Except Fault String

/-- A lexeme of a JSON text. -/
inductive Lexeme where
  | openList
  | closeList
  | openObject
  | closeObject
  | comma
  | colon
  | null
  | bool (b : Bool)
  | number (n : Numeral)
  | string (s : Spelling)
  /-- A string begins here and does not come to an end. -/
  | brokenString (read skip : Fault)
  /-- A word or a numeral begins here and does not come to an end, or nothing does. -/
  | broken (b : Break)

/-! ### Strings -/

/-- What has been read of a string: the characters, the last one first; the first half of a
surrogate pair, when the second one has to follow; and the first fault in the text. -/
structure Content where
  chars : List Char := []
  half : Option Nat := none
  fault : Option Fault := none

namespace Content

/-- Adds a character. It may not stand between the halves of a pair. -/
def char (t : Content) (c : Char) : Content :=
  if t.fault.isSome then t
  else if t.half.isSome then { t with fault := some .brokenPair }
  else { t with chars := c :: t.chars }

/-- Whether 16 bits are the first half of a surrogate pair. -/
def isFirstHalf (u : Nat) : Bool := 0xD800 ≤ u && u < 0xDC00

/-- Whether 16 bits are the second half of a surrogate pair. -/
def isSecondHalf (u : Nat) : Bool := 0xDC00 ≤ u && u < 0xE000

/-- Adds the 16 bits of an escape: a character of its own or half of a pair. -/
def unit (t : Content) (u : Nat) : Content :=
  if t.fault.isSome then t
  else match t.half with
    | some h =>
      if isSecondHalf u then
        { t with
          chars := Char.ofNat (0x10000 + (h - 0xD800) * 0x400 + (u - 0xDC00)) :: t.chars
          half := none }
      else { t with fault := some .loneSurrogate }
    | none =>
      if isFirstHalf u then { t with half := some u }
      else if isSecondHalf u then { t with fault := some .loneSurrogate }
      else { t with chars := Char.ofNat u :: t.chars }

/-- The text of a string that ends here. -/
def spelling (t : Content) : Spelling :=
  match t.fault with
  | some f => .error f
  | none => if t.half.isSome then .error .brokenPair else .ok (String.ofList t.chars.reverse)

/-- The fault that a reader meets first when the string breaks off with `f`. -/
def faultOr (t : Content) (f : Fault) : Fault := t.fault.getD f

end Content

/-- The 16 bits of four hexadecimal digits. -/
def hexUnit? (a b c d : Char) : Option Nat := do
  return (← Text.hexDigit? a) * 4096 + (← Text.hexDigit? b) * 256 + (← Text.hexDigit? c) * 16
    + (← Text.hexDigit? d)

/-- The character that a backslash and one more character stand for. -/
def escaped? : Char → Option Char
  | '"' => some '"'
  | '\\' => some '\\'
  | '/' => some '/'
  | 'b' => some '\x08'
  | 'f' => some '\x0c'
  | 'n' => some '\n'
  | 'r' => some '\r'
  | 't' => some '\t'
  | _ => none

/-- The number of bytes of a text. -/
def byteCount (cs : List Char) : Nat := cs.foldl (fun n c => n + c.utf8Size) 0

/-- A lexeme and what follows it. -/
abbrev Cut := Lexeme × List Char

/-- The string whose opening quote has been read. An escape `\u` takes the next four bytes,
so a text that ends within them ends within the string. -/
def cutString (t : Content) : List Char → Cut
  | [] => (.brokenString (t.faultOr .endInString) .endInString, [])
  | '"' :: rest => (.string t.spelling, rest)
  | '\\' :: 'u' :: a :: b :: c :: d :: rest =>
    match hexUnit? a b c d with
    | some u => cutString (t.unit u) rest
    | none => (.brokenString (t.faultOr .badEscape) .badEscape, [])
  | '\\' :: 'u' :: rest =>
    -- Fewer than four characters follow; they are four bytes only if some are not ASCII.
    let f := if byteCount rest < 4 then .endInString else .badEscape
    (.brokenString (t.faultOr f) f, [])
  | '\\' :: [] => (.brokenString (t.faultOr .endInString) .endInString, [])
  | '\\' :: e :: rest =>
    match escaped? e with
    | some c => cutString (t.char c) rest
    | none =>
      -- Behind half of a pair the missing half is noticed before the escape is read.
      (.brokenString ((t.char e).faultOr .badEscape) .badEscape, [])
  | c :: rest =>
    if c < ' ' then (.brokenString ((t.char c).faultOr .controlCharacter) .controlCharacter, [])
    else cutString (t.char c) rest

/-! ### Numerals -/

/-- A numeral that breaks off before `rest`, where a digit is wanted. -/
def brokenNumber (rest : List Char) : Cut :=
  (.broken ⟨if rest.isEmpty then .endInValue else .badNumber, .badNumber, .wantedValue⟩, [])

/-- The sign that a text begins with, and what follows it. -/
def cutSign : List Char → Sign × List Char
  | '+' :: rest => (.plus, rest)
  | '-' :: rest => (.minus, rest)
  | rest => (.none, rest)

/-- The power of ten of a numeral, if one follows, and what follows it; or what is left
where the digits of the power are wanted. -/
def cutExponent : List Char → Except (List Char) (Option (Sign × List Digit) × List Char)
  | [] => .ok (none, [])
  | c :: rest =>
    if c = 'e' ∨ c = 'E' then
      let sign := cutSign rest
      match splitDigits [] sign.2 with
      | ([], rest) => .error rest
      | (ds, rest) => .ok (some (sign.1, ds), rest)
    else .ok (none, c :: rest)

/-- The digits after the point of a numeral, if a point follows, and what follows them; or
what is left where the digits are wanted. -/
def cutFraction : List Char → Except (List Char) (List Digit × List Char)
  | '.' :: rest =>
    match splitDigits [] rest with
    | ([], rest) => .error rest
    | (ds, rest) => .ok (ds, rest)
  | rest => .ok ([], rest)

/-- The numeral that a text goes on with, behind its sign and the digits in `taken`. A zero
in front of other digits is not allowed. -/
def cutNumber (negative : Bool) (taken : List Digit) (text : List Char) : Cut :=
  match splitDigits taken text with
  | ([], rest) => brokenNumber rest
  | (whole, rest) =>
    -- A zero stands alone before the point.
    if whole.head? = some Digit.zero ∧ whole.length ≠ 1 then
      (.broken ⟨.badNumber, .badNumber, .wantedValue⟩, [])
    else
      match cutFraction rest with
      | .error rest => brokenNumber rest
      | .ok (fraction, rest) =>
        match cutExponent rest with
        | .error rest => brokenNumber rest
        | .ok (exponent, rest) => (.number ⟨negative, whole, fraction, exponent⟩, rest)

/-! ### Words -/

/-- The word with the given letters, the first of which has been read. -/
def cutWord (word : Lexeme) : (letters text : List Char) → Cut
  | [], rest => (word, rest)
  | _ :: _, [] => (.broken ⟨.endInValue, .endInValue, .wantedValue⟩, [])
  | l :: letters, c :: rest =>
    if c = l then cutWord word letters rest
    else (.broken ⟨.wantedWord, .wantedWord, .wantedValue⟩, [])

/-! ### The whole text -/

/-- The characters that may stand between lexemes. -/
def isBlank (c : Char) : Bool := c = ' ' || c = '\n' || c = '\t' || c = '\r'

/-- The lexeme that begins with the character `c`. -/
def cutFrom (c : Char) (rest : List Char) : Cut :=
  match c with
  | '[' => (.openList, rest)
  | ']' => (.closeList, rest)
  | '\x7b' => (.openObject, rest)
  | '\x7d' => (.closeObject, rest)
  | ',' => (.comma, rest)
  | ':' => (.colon, rest)
  | '"' => cutString {} rest
  | 'n' => cutWord .null ['u', 'l', 'l'] rest
  | 't' => cutWord (.bool true) ['r', 'u', 'e'] rest
  | 'f' => cutWord (.bool false) ['a', 'l', 's', 'e'] rest
  | '-' => cutNumber true [] rest
  | c =>
    match Digit.ofChar? c with
    | some d => cutNumber false [d] rest
    | none => (.broken (.same .wantedValue), [])

/-! ### Every lexeme takes some of the text

None of the functions above puts anything back, and every lexeme takes its first character,
so cutting lexemes off a text comes to an end. -/

private theorem length_cutString (t : Content) (text : List Char) :
    (cutString t text).2.length ≤ text.length := by
  fun_induction cutString t text with
  | case1 | case2 | case4 | case5 | case6 | case8 | case9 => simp
  | case3 _ _ _ _ _ _ _ _ ih | case7 _ _ _ _ _ ih | case10 _ _ _ _ _ _ _ ih =>
    simp only [List.length_cons]
    omega

private theorem length_cutWord (word : Lexeme) (letters text : List Char) :
    (cutWord word letters text).2.length ≤ text.length := by
  induction letters generalizing text with
  | nil => exact Nat.le_refl _
  | cons l letters ih =>
    cases text with
    | nil => exact Nat.le_refl _
    | cons c rest =>
      rw [cutWord]
      -- A letter that is not the right one ends everything behind it.
      split
      · exact Nat.le_succ_of_le (ih rest)
      · exact Nat.zero_le _

private theorem length_cutSign (text : List Char) : (cutSign text).2.length ≤ text.length := by
  unfold cutSign
  split
  · exact Nat.le_succ _
  · exact Nat.le_succ _
  · exact Nat.le_refl _

private theorem length_cutFraction {text rest : List Char} {ds : List Digit}
    (h : cutFraction text = .ok (ds, rest)) : rest.length ≤ text.length := by
  unfold cutFraction at h
  split at h
  · next behind =>
    have hdigits := length_splitDigits [] behind
    split at h
    · cases h
    · next heq =>
      cases h
      rw [heq] at hdigits
      exact Nat.le_succ_of_le hdigits
  · cases h
    exact Nat.le_refl _

private theorem length_cutExponent {text rest : List Char} {e : Option (Sign × List Digit)}
    (h : cutExponent text = .ok (e, rest)) : rest.length ≤ text.length := by
  cases text with
  | nil => cases h; exact Nat.le_refl _
  | cons c behind =>
    rw [cutExponent] at h
    -- Behind the `e` there may be a sign and have to be digits, and both only take off.
    split at h
    · have hsign := length_cutSign behind
      have hdigits := length_splitDigits [] (cutSign behind).2
      dsimp only at h
      split at h
      · cases h
      · next heq =>
        cases h
        rw [heq] at hdigits
        exact Nat.le_succ_of_le (Nat.le_trans hdigits hsign)
    · cases h
      exact Nat.le_refl _

private theorem length_cutNumber (negative : Bool) (taken : List Digit) (text : List Char) :
    (cutNumber negative taken text).2.length ≤ text.length := by
  unfold cutNumber
  have hdigits := length_splitDigits taken text
  -- Each part is cut off what the one before has left, so the lengths go down along the chain.
  split
  · exact Nat.zero_le _
  · next heq =>
    rw [heq] at hdigits
    split
    · exact Nat.zero_le _
    · split
      · exact Nat.zero_le _
      · next hf =>
        have hfraction := length_cutFraction hf
        split
        · exact Nat.zero_le _
        · next he =>
          exact Nat.le_trans (length_cutExponent he) (Nat.le_trans hfraction hdigits)

/-- **A lexeme takes at least its first character.** -/
theorem length_cutFrom (c : Char) (rest : List Char) :
    (cutFrom c rest).2.length ≤ rest.length := by
  unfold cutFrom
  -- The brackets and commas leave the rest as it is; all else is cut by a function of its own.
  split
  · exact Nat.le_refl _
  · exact Nat.le_refl _
  · exact Nat.le_refl _
  · exact Nat.le_refl _
  · exact Nat.le_refl _
  · exact Nat.le_refl _
  · exact length_cutString _ _
  · exact length_cutWord _ _ _
  · exact length_cutWord _ _ _
  · exact length_cutWord _ _ _
  · exact length_cutNumber _ _ _
  · split
    · exact length_cutNumber _ _ _
    · exact Nat.zero_le _

/-- The lexemes of a text behind those in `done`, where the last one comes first. -/
def lexemesOnto (done : List Lexeme) : List Char → List Lexeme
  | [] => done.reverse
  | c :: rest =>
    if isBlank c then lexemesOnto done rest
    else
      let cut := cutFrom c rest
      lexemesOnto (cut.1 :: done) cut.2
termination_by text => text.length
decreasing_by
  · simp
  · exact Nat.lt_succ_of_le (length_cutFrom c rest)

/-- **The lexemes of a text.** -/
def lexemes (text : String) : List Lexeme := lexemesOnto [] text.toList

end LSystem.Json
