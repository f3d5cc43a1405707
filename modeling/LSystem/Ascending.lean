/-!
# Ascending numbers

Numbers that are kept in ascending order are searched by halves. `countUpTo a n` is the
number of entries of `a` that are at most `n`, which is also the place of the first entry
beyond `n`.

Whatever the order, the search ends at a place whose entry is beyond `n`, or behind the last
entry (`firstBeyond_bounds`). With ascending numbers this place divides the entries
(`getElem_le_iff`).
-/

namespace LSystem.Ascending

/-- The first place from `low` on and before `high` whose number is beyond `n`, and `high` if
there is none. -/
def firstBeyond (a : Array Nat) (n low high : Nat) : Nat :=
  if low < high then
    let middle := (low + high) / 2
    if n < a.getD middle 0 then firstBeyond a n low middle
    else firstBeyond a n (middle + 1) high
  else low
termination_by high - low

/-- **The number of entries that are at most `n`,** if the entries ascend. -/
def countUpTo (a : Array Nat) (n : Nat) : Nat := firstBeyond a n 0 a.size

/-- The search stays between its ends; unless it comes to one of them, what stands before the
place where it ends is at most `n`, and what stands at that place is beyond it. -/
theorem firstBeyond_bounds (a : Array Nat) (n : Nat) {low high : Nat} (h : low ≤ high) :
    let k := firstBeyond a n low high
    (low ≤ k ∧ k ≤ high) ∧ (low < k → a.getD (k - 1) 0 ≤ n) ∧ (k < high → n < a.getD k 0) := by
  -- The induction is on the range that is left. Its ends stay what the claim says of them, so only
  -- the middle has to be looked at.
  fun_induction firstBeyond a n low high with
  | case1 low high hlt middle hbeyond ih =>
    have hm : low ≤ middle ∧ middle < high := by omega
    obtain ⟨⟨h₁, h₂⟩, h₃, h₄⟩ := ih hm.1
    refine ⟨⟨h₁, by omega⟩, h₃, fun _ => ?_⟩
    rcases Nat.lt_or_eq_of_le h₂ with hk | hk
    · exact h₄ hk
    · rw [hk]; exact hbeyond
  | case2 low high hlt middle hbelow ih =>
    have hm : low ≤ middle ∧ middle < high := by omega
    obtain ⟨⟨h₁, h₂⟩, h₃, h₄⟩ := ih hm.2
    refine ⟨⟨by omega, h₂⟩, fun _ => ?_, h₄⟩
    rcases Nat.lt_or_eq_of_le h₁ with hk | hk
    · exact h₃ hk
    · rw [← hk, Nat.add_sub_cancel]; exact Nat.le_of_not_lt hbelow
  | case3 low high hlt => exact ⟨⟨Nat.le_refl _, h⟩, by omega, by omega⟩

/-- There are no more entries up to `n` than entries. -/
theorem countUpTo_le (a : Array Nat) (n : Nat) : countUpTo a n ≤ a.size :=
  (firstBeyond_bounds a n (Nat.zero_le _)).1.2

/-- If the last entry is beyond `n`, not all entries are counted. -/
theorem countUpTo_lt {a : Array Nat} {n : Nat} (h : n < a.getD (a.size - 1) 0) :
    countUpTo a n < a.size := by
  obtain ⟨⟨-, hle⟩, hbelow, -⟩ := firstBeyond_bounds a n (Nat.zero_le a.size)
  rw [← countUpTo] at hle hbelow
  -- All entries would have to be counted for this to fail.
  rcases Nat.lt_or_eq_of_le hle with hk | hk
  · exact hk
  · -- Otherwise the last entry would be at most `n`, or there would be none.
    rcases Nat.eq_zero_or_pos a.size with h0 | h0
    · simp [h0] at h
    · have := hbelow (hk ▸ h0)
      rw [hk] at this
      omega

/-- Of ascending numbers, those at most `n` come first, and the count says how many they are. -/
theorem getElem_le_iff {a : Array Nat} (ascending : a.toList.Pairwise (· ≤ ·)) {n i : Nat}
    (hi : i < a.size) : a[i] ≤ n ↔ i < countUpTo a n := by
  obtain ⟨⟨-, hle⟩, hbelow, hbeyond⟩ := firstBeyond_bounds a n (Nat.zero_le a.size)
  rw [← countUpTo] at hle hbelow hbeyond
  have mono {i j : Nat} (hij : i ≤ j) (hj : j < a.size) : a[i] ≤ a[j] := by
    rcases Nat.lt_or_eq_of_le hij with h | rfl
    · exact List.pairwise_iff_getElem.1 ascending i j (by simp; omega) (by simp; omega) h
    · exact Nat.le_refl _
  -- The count ends between two neighbours, and in an ascending array the others follow them.
  constructor
  · intro h
    refine Nat.lt_of_not_le fun hk => ?_
    have hlt := hbeyond (Nat.lt_of_le_of_lt hk hi)
    simp only [Array.getD_eq_getD_getElem?,
      Array.getElem?_eq_getElem (Nat.lt_of_le_of_lt hk hi), Option.getD_some] at hlt
    exact absurd (mono hk hi) (by omega)
  · intro h
    have hb := hbelow (Nat.lt_of_le_of_lt (Nat.zero_le i) h)
    have hk : countUpTo a n - 1 < a.size := by omega
    simp only [Array.getD_eq_getD_getElem?, Array.getElem?_eq_getElem hk, Option.getD_some] at hb
    exact Nat.le_trans (mono (by omega) hk) hb

end LSystem.Ascending
