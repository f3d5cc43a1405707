import LSystem.Json.Lexeme
import LSystem.Json.Value
import LSystem.Proofs.Decimal.Digits

/-!
# The lexemes of what is written

A string, a numeral or a word that has been written is cut off again as one lexeme, if behind it
the text ends or goes on as it does behind a value (`EndsValue`). Numerals need a closer look: not
every numeral can stand in a JSON text, since it might have no digit where one is wanted or a zero
too many in front. Those that can (`Numeral.IsJson`) are cut off as what they are, and the others
are no lexemes at all (`exists_broken_of_not_isJson`).
-/

namespace LSystem

/-! ### Numerals that JSON allows -/

namespace Decimal

/-- **A numeral that may stand in a JSON text.** -/
structure Numeral.IsJson (n : Numeral) : Prop where
  whole : n.whole ≠ []
  leading : n.whole.head? = some .zero → n.whole.length = 1
  exponent : ∀ e ∈ n.exponent, e.2 ≠ []

theorem Numeral.isJson_ofNat (n : Nat) : (Numeral.ofNat n).IsJson where
  whole := digits_ne_nil n
  leading := length_digits_of_head?
  exponent e he := by cases he

/-- The digits after the point, with the point. -/
def fractionChars (ds : List Digit) : List Char := if ds.isEmpty then [] else '.' :: textOf ds

/-- A power of ten, with its mark. -/
def exponentChars : Option (Sign × List Digit) → List Char
  | none => []
  | some (sign, ds) => 'e' :: (sign.text ++ textOf ds)

/-- What follows the digits before the point. -/
def Numeral.behind (n : Numeral) : List Char := fractionChars n.fraction ++ exponentChars n.exponent

theorem Numeral.chars_append (n : Numeral) (rest : List Char) :
    n.chars ++ rest =
      (if n.negative then ['-'] else []) ++ (textOf n.whole ++ (n.behind ++ rest)) := by
  have hchars : n.chars = (if n.negative then ['-'] else []) ++ textOf n.whole ++
    fractionChars n.fraction ++ exponentChars n.exponent := rfl
  rw [hchars, Numeral.behind]
  simp only [List.append_assoc]

end Decimal

namespace Json

open Decimal

/-- What may stand behind a value: nothing, a comma or a closing bracket. -/
def EndsValue (text : List Char) : Prop := ∀ c ∈ text.head?, c = ',' ∨ c = ']' ∨ c = '\x7d'

section Numerals

variable {n : Numeral} {rest : List Char}

theorem EndsValue.endsDigits (h : EndsValue rest) : EndsDigits rest := by
  intro c hc
  rcases h c hc with rfl | rfl | rfl <;> decide

theorem endsDigits_exponentChars (e : Option (Sign × List Digit)) (h : EndsValue rest) :
    EndsDigits (exponentChars e ++ rest) := by
  cases e with
  | none => exact h.endsDigits
  | some e =>
    rintro c ⟨⟩
    decide

private theorem endsDigits_behind (n : Numeral) (h : EndsValue rest) : EndsDigits
    (n.behind ++ rest) := by
  unfold Numeral.behind fractionChars
  split
  · exact endsDigits_exponentChars n.exponent h
  · rintro c ⟨⟩
    decide

private theorem cutFraction_append (n : Numeral) (h : EndsValue rest) :
    cutFraction (n.behind ++ rest) = .ok (n.fraction, exponentChars n.exponent ++ rest) := by
  have hends := endsDigits_exponentChars n.exponent h
  unfold Numeral.behind fractionChars
  cases hfraction : n.fraction with
  | nil =>
    -- Without a fraction there is no point, neither in the numeral nor behind it.
    have hpoint : ∀ tail, exponentChars n.exponent ++ rest ≠ '.' :: tail := by
      cases n.exponent with
      | none =>
        rintro tail rfl
        simpa using h '.' rfl
      | some e => exact fun tail heq => absurd (List.cons.inj heq).1 (by decide)
    change cutFraction (exponentChars n.exponent ++ rest) = _
    unfold cutFraction
    split
    · next heq => exact absurd heq (hpoint _)
    · rfl
  | cons d ds =>
    change cutFraction ('.' :: (textOf (d :: ds) ++ exponentChars n.exponent) ++ rest) = _
    rw [List.cons_append, List.append_assoc, cutFraction, splitDigits_textOf_append hends]
    rfl

private theorem cutSign_append (sign : Sign) (ds : List Digit) (h : EndsValue rest) :
    cutSign (sign.text ++ (textOf ds ++ rest)) = (sign, textOf ds ++ rest) := by
  cases sign with
  | plus => rfl
  | minus => rfl
  | none =>
    -- What stands in the place of the sign must not be taken for one.
    have hhead : ∀ c ∈ (textOf ds ++ rest).head?, c ≠ '+' ∧ c ≠ '-' := by
      cases ds with
      | nil =>
        intro c hc
        rcases h c hc with rfl | rfl | rfl <;> decide
      | cons d ds =>
        rintro c ⟨⟩
        revert d
        decide
    change cutSign (textOf ds ++ rest) = _
    unfold cutSign
    split
    · next heq => exact absurd rfl (hhead '+' (by rw [heq]; rfl)).1
    · next heq => exact absurd rfl (hhead '-' (by rw [heq]; rfl)).2
    · rfl

/-- A power of ten is cut off if it has digits. -/
private theorem cutExponent_append (e : Option (Sign × List Digit)) (h : EndsValue rest) :
    cutExponent (exponentChars e ++ rest) =
      if ∀ p ∈ e, p.2 ≠ [] then .ok (e, rest) else .error rest := by
  cases e with
  | none =>
    rw [if_pos (by simp)]
    cases rest with
    | nil => rfl
    | cons c rest =>
      -- What ends a value is no mark of a power of ten.
      have hmark : ¬ (c = 'e' ∨ c = 'E') := by
        rcases h c rfl with rfl | rfl | rfl <;> decide
      change cutExponent (c :: rest) = _
      rw [cutExponent, if_neg hmark]
  | some e =>
    obtain ⟨sign, ds⟩ := e
    have hmark : 'e' = 'e' ∨ 'e' = 'E' := .inl rfl
    change cutExponent ('e' :: (sign.text ++ textOf ds ++ rest)) = _
    rw [cutExponent, if_pos hmark, List.append_assoc, cutSign_append sign ds h]
    dsimp only
    rw [splitDigits_textOf_append h.endsDigits]
    cases ds with
    | nil => rfl
    | cons d ds => rw [if_pos (by simp)]; rfl

/-- **A numeral is cut off if JSON allows it,** and otherwise breaks off. -/
theorem cutNumber_append (taken ds : List Digit) (hds : taken.reverse ++ ds = n.whole)
    (h : EndsValue rest) :
    (n.IsJson → cutNumber n.negative taken (textOf ds ++ (n.behind ++ rest)) = (.number n, rest)) ∧
      (¬ n.IsJson →
        ∃ b, cutNumber n.negative taken (textOf ds ++ (n.behind ++ rest)) = (.broken b, [])) := by
  -- The parts are cut off from left to right, and each can break the numeral off.
  have hsplit := splitDigits_textOf_append (endsDigits_behind n h) taken ds
  rw [hds] at hsplit
  unfold cutNumber
  rw [hsplit]
  cases hwhole : n.whole with
  | nil => exact ⟨fun hjson => absurd hwhole hjson.whole, fun _ => ⟨_, rfl⟩⟩
  | cons d whole =>
    dsimp only
    rw [← hwhole]
    by_cases hleading : n.whole.head? = some .zero ∧ n.whole.length ≠ 1
    · rw [if_pos hleading]
      exact ⟨fun hjson => absurd (hjson.leading hleading.1) hleading.2, fun _ => ⟨_, rfl⟩⟩
    · rw [if_neg hleading, cutFraction_append n h]
      dsimp only
      rw [cutExponent_append n.exponent h]
      by_cases hexponent : ∀ e ∈ n.exponent, e.2 ≠ []
      · rw [if_pos hexponent]
        -- No part broke off, and that is all a JSON numeral asks for.
        have hjson : n.IsJson := by
          refine ⟨?_, fun hzero => ?_, hexponent⟩
          · rw [hwhole]
            exact List.cons_ne_nil _ _
          · exact Decidable.not_not.1 fun hlength => hleading ⟨hzero, hlength⟩
        exact ⟨fun _ => rfl, fun hnot => absurd hjson hnot⟩
      · rw [if_neg hexponent]
        exact ⟨fun hjson => absurd hjson.exponent hexponent, fun _ => ⟨_, rfl⟩⟩

end Numerals

/-! ### One lexeme -/

/-- Characters that are cut off as one lexeme where a value may end behind them. -/
def IsCut (cs : List Char) (l : Lexeme) : Prop :=
  ∀ rest, EndsValue rest → ∃ c behind, cs ++ rest = c :: behind ∧ isBlank c = false ∧
    cutFrom c behind = (l, rest)

theorem lexemesOnto_cons {c : Char} (h : isBlank c = false) (done : List Lexeme)
    (rest : List Char) : lexemesOnto done (c :: rest) =
      lexemesOnto ((cutFrom c rest).1 :: done) (cutFrom c rest).2 := by
  rw [lexemesOnto, h]
  rfl

theorem IsCut.lexemesOnto_append {cs rest : List Char} {l : Lexeme} (h : IsCut cs l)
    (hrest : EndsValue rest) (done : List Lexeme) :
    lexemesOnto done (cs ++ rest) = lexemesOnto (l :: done) rest := by
  obtain ⟨c, behind, hcs, hblank, hcut⟩ := h rest hrest
  rw [hcs, lexemesOnto_cons hblank, hcut]

theorem isCut_null : IsCut ['n', 'u', 'l', 'l'] .null := fun rest _ =>
  ⟨'n', ['u', 'l', 'l'] ++ rest, rfl, rfl, rfl⟩

theorem isCut_true : IsCut ['t', 'r', 'u', 'e'] (.bool true) := fun rest _ =>
  ⟨'t', ['r', 'u', 'e'] ++ rest, rfl, rfl, rfl⟩

theorem isCut_false : IsCut ['f', 'a', 'l', 's', 'e'] (.bool false) := fun rest _ =>
  ⟨'f', ['a', 'l', 's', 'e'] ++ rest, rfl, rfl, rfl⟩

/-! ### Numerals -/

theorem isBlank_toChar (d : Digit) : isBlank d.toChar = false := by
  revert d
  decide

theorem cutFrom_toChar (d : Digit) (rest : List Char) :
    cutFrom d.toChar rest = cutNumber false [d] rest := by
  match d with
  | 0 | 1 | 2 | 3 | 4 | 5 | 6 | 7 | 8 | 9 => rfl

/-- **Numerals that JSON allows are lexemes.** -/
theorem isCut_numeral {n : Numeral} (h : n.IsJson) : IsCut n.chars (.number n) := by
  intro rest hrest
  rw [n.chars_append]
  -- A sign stands before all digits; without one the first digit is what begins the numeral.
  cases hnegative : n.negative with
  | true =>
    refine ⟨'-', _, rfl, rfl, ?_⟩
    have hcut := (cutNumber_append [] n.whole rfl hrest).1 h
    rwa [hnegative] at hcut
  | false =>
    obtain ⟨d, ds, hds⟩ := List.exists_cons_of_ne_nil h.whole
    refine ⟨d.toChar, textOf ds ++ (n.behind ++ rest), by rw [hds]; rfl, isBlank_toChar d, ?_⟩
    have hcut := (cutNumber_append [d] ds hds.symm hrest).1 h
    rwa [hnegative, ← cutFrom_toChar] at hcut

/-- Other numerals are not. -/
theorem exists_broken_of_not_isJson {n : Numeral} (h : ¬ n.IsJson) :
    n.chars = [] ∨ ∃ c cs b, n.chars = c :: cs ∧ isBlank c = false ∧
      cutFrom c cs = (.broken b, []) := by
  have hends : EndsValue [] := fun c hc => by cases hc
  have hchars := n.chars_append []
  rw [List.append_nil] at hchars
  rw [hchars]
  -- As above the numeral begins with its sign or its first digit, but neither need be there.
  cases hnegative : n.negative with
  | true =>
    obtain ⟨b, hcut⟩ := (cutNumber_append [] n.whole rfl hends).2 h
    rw [hnegative] at hcut
    exact .inr ⟨'-', _, b, rfl, rfl, hcut⟩
  | false =>
    cases hwhole : n.whole with
    | nil =>
      -- The numeral begins with its point or its power of ten, or there is nothing of it.
      change n.behind ++ [] = [] ∨ _
      rw [List.append_nil]
      unfold Numeral.behind fractionChars exponentChars
      split
      · cases n.exponent with
        | none => exact .inl rfl
        | some e => exact .inr ⟨'e', _, _, rfl, rfl, rfl⟩
      · exact .inr ⟨'.', _, _, rfl, rfl, rfl⟩
    | cons d ds =>
      obtain ⟨b, hcut⟩ := (cutNumber_append [d] ds hwhole.symm hends).2 h
      rw [hnegative, ← cutFrom_toChar] at hcut
      exact .inr ⟨d.toChar, _, b, rfl, isBlank_toChar d, hcut⟩

/-! ### Strings -/

/-- What the four digits of a control character stand for. -/
private theorem hexUnit?_hexChar : ∀ k < 32,
    hexUnit? '0' '0' (hexChar (k / 16)) (hexChar (k % 16)) = some k := by decide

/-- **An escaped character is read as the character.** -/
theorem cutString_escape (c : Char) (cs rest : List Char) :
    cutString { chars := cs } (escape c ++ rest) = cutString { chars := c :: cs } rest := by
  unfold escape
  split
  · rfl
  · rfl
  · rfl
  · rfl
  · rfl
  · rfl
  · rfl
  · next hquote hbackslash _ _ _ _ _ =>
    split
    · next hcontrol =>
      have hlt : c.toNat < 32 := hcontrol
      -- A control character is a unit of its own and no half of one.
      have hunit : Content.unit { chars := cs } c.toNat = { chars := c :: cs } := by
        have hfirst : Content.isFirstHalf c.toNat = false := by
          unfold Content.isFirstHalf
          simp only [Bool.and_eq_false_iff, decide_eq_false_iff_not]
          omega
        have hsecond : Content.isSecondHalf c.toNat = false := by
          unfold Content.isSecondHalf
          simp only [Bool.and_eq_false_iff, decide_eq_false_iff_not]
          omega
        simp [Content.unit, hfirst, hsecond, Char.ofNat_toNat]
      change cutString _ ('\\' :: 'u' :: '0' :: '0' :: _ :: _ :: rest) = _
      rw [cutString, hexUnit?_hexChar _ hlt]
      dsimp only
      rw [hunit]
    · next hplain =>
      change cutString _ (c :: rest) = _
      rw [cutString, if_neg hplain]
      · rfl
      · -- The character begins no escape.
        exact hquote
      · exact fun _ _ _ _ _ h _ => hbackslash h
      · exact fun _ h _ => hbackslash h
      · exact fun h _ => hbackslash h
      · exact fun _ _ h _ => hbackslash h

private theorem cutString_flatMap_escape (s cs rest : List Char) :
    cutString { chars := cs } (s.flatMap escape ++ '"' :: rest) =
      (.string (.ok (String.ofList (cs.reverse ++ s))), rest) := by
  induction s generalizing cs with
  | nil => simp [cutString, Content.spelling]
  | cons c s ih =>
    rw [List.flatMap_cons, List.append_assoc, cutString_escape, ih, List.reverse_cons,
      List.append_assoc]
    rfl

/-- **A string is one lexeme,** whatever follows. -/
theorem lexemesOnto_stringChars (s : String) (done : List Lexeme) (rest : List Char) :
    lexemesOnto done (stringChars s ++ rest) = lexemesOnto (.string (.ok s) :: done) rest := by
  have hchars : stringChars s ++ rest = '"' :: (s.toList.flatMap escape ++ '"' :: rest) := by
    simp [stringChars]
  have hcut : cutFrom '"' (s.toList.flatMap escape ++ '"' :: rest) = (.string (.ok s), rest) := by
    change cutString { chars := [] } _ = _
    rw [cutString_flatMap_escape]
    simp
  rw [hchars, lexemesOnto_cons rfl, hcut]

end Json

end LSystem
