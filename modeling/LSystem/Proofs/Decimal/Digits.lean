import LSystem.Decimal.Numeral

/-!
# Digits written and read

The digits of a number write the number (`value_digits`), without leading zeros
(`length_digits_of_head?`). Digits that stand in a text are found there again: they are split off
completely, and nothing behind them is (`splitDigits_textOf_append`).
-/

namespace LSystem.Decimal

/-! ### The digits of a number -/

private theorem digitsOnto_eq_append (n : Nat) (acc : List Digit) :
    digitsOnto n acc = digitsOnto n [] ++ acc := by
  induction n using Nat.strongRecOn generalizing acc with
  | _ n ih =>
    rw [digitsOnto.eq_def n acc, digitsOnto.eq_def n []]
    dsimp only
    split
    · rfl
    · have hlt : n / 10 < n := by omega
      rw [ih _ hlt, ih _ hlt [_], List.append_assoc]
      rfl

theorem digits_of_lt {n : Nat} (h : n < 10) : digits n = [⟨n, h⟩] := by
  rw [digits, digitsOnto]
  simp only [h, dite_true, List.cons.injEq, and_true]
  exact Fin.ext (Nat.mod_eq_of_lt h)

/-- The last digit stands behind the digits of a tenth. -/
theorem digits_of_le {n : Nat} (h : 10 ≤ n) :
    digits n = digits (n / 10) ++ [⟨n % 10, Nat.mod_lt n (by decide)⟩] := by
  rw [digits, digitsOnto, dif_neg (Nat.not_lt.2 h), digitsOnto_eq_append]
  rfl

theorem digits_ne_nil (n : Nat) : digits n ≠ [] := by
  rcases Nat.lt_or_ge n 10 with h | h
  · rw [digits_of_lt h]
    exact List.cons_ne_nil _ _
  · rw [digits_of_le h]
    exact List.concat_ne_nil _ _

theorem value_concat (ds : List Digit) (d : Digit) : value (ds ++ [d]) = 10 * value ds + d.val := by
  rw [value, List.foldl_append]
  rfl

/-- **The digits of a number write the number.** -/
theorem value_digits (n : Nat) : value (digits n) = n := by
  induction n using Nat.strongRecOn with
  | _ n ih =>
    rcases Nat.lt_or_ge n 10 with h | h
    · rw [digits_of_lt h]
      change 10 * 0 + n = n
      omega
    · rw [digits_of_le h, value_concat, ih _ (by omega)]
      change 10 * (n / 10) + n % 10 = n
      omega

/-- No zero stands in front of other digits. -/
theorem length_digits_of_head? {n : Nat} (h : (digits n).head? = some .zero) :
    (digits n).length = 1 := by
  -- By induction on the number: the first digit stays when the last one is taken off.
  induction n using Nat.strongRecOn with
  | _ n ih =>
    rcases Nat.lt_or_ge n 10 with hlt | hge
    · rw [digits_of_lt hlt]
      rfl
    · -- The first digit is that of a tenth, and a tenth that is one zero is zero.
      obtain ⟨d, ds, hds⟩ := List.exists_cons_of_ne_nil (digits_ne_nil (n / 10))
      rw [digits_of_le hge, hds] at h
      have hone := ih (n / 10) (by omega) (hds ▸ h)
      have hnil : ds = [] := by simpa [hds] using hone
      have hzero : d = .zero := Option.some.inj h
      have hvalue := value_digits (n / 10)
      rw [hds, hnil, hzero] at hvalue
      have hnone : n / 10 = 0 := hvalue.symm
      omega

/-! ### Digits in a text -/

/-- A text that does not go on with a digit. -/
def EndsDigits (text : List Char) : Prop := ∀ c ∈ text.head?, Digit.ofChar? c = none

private theorem splitDigits_of_endsDigits {text : List Char} (h : EndsDigits text)
    (taken : List Digit) :
    splitDigits taken text = (taken.reverse, text) := by
  cases text with
  | nil => rfl
  | cons c rest => rw [splitDigits, h c rfl]

private theorem textOf_cons (d : Digit) (ds : List Digit) : textOf (d :: ds) = d.toChar ::
    textOf ds := rfl

/-- **All digits are split off, and nothing else.** -/
theorem splitDigits_textOf_append {rest : List Char} (h : EndsDigits rest)
    (taken ds : List Digit) :
    splitDigits taken (textOf ds ++ rest) = (taken.reverse ++ ds, rest) := by
  induction ds generalizing taken with
  | nil =>
    rw [List.append_nil]
    exact splitDigits_of_endsDigits h taken
  | cons d ds ih =>
    rw [textOf_cons, List.cons_append, splitDigits, Digit.ofChar?_toChar]
    dsimp only
    rw [ih, List.reverse_cons, List.append_assoc]
    rfl

end LSystem.Decimal
