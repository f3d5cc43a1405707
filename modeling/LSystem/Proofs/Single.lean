/-!
# Products that are numbers

A single is a NaN, an infinity, a zero or some other number. These lemmas say how multiplication
gets from one of these classes to another. A product is worked out in full and then rounded to what
the format can hold. Rounding may turn a number into zero or infinity, but never into a NaN
(`isNaN_repack`), so a product is a NaN only if one of its factors is, or if they are an infinity
and a zero (`isNaN_mul_iff`). And a zero is a factor of no infinity (`ne_zero_of_isInf_mul`).
-/

namespace LSystem.Single

open Float.Model (UnpackedFloat)
open Float.Model.UnpackedFloat

/-! ### Rounding -/

/-- What the format of singles makes of a number. -/
def repack (u : UnpackedFloat) : UnpackedFloat := (Float32.Model.pack u).unpack

@[simp] theorem repack_notANumber : repack .notANumber = .notANumber := rfl

@[simp] theorem repack_zero (s : Sign) : repack (.zero s) = .zero s := by
  cases s <;> rfl

@[simp] theorem repack_infinity (s : Sign) : repack (.infinity s) = .infinity s := by
  cases s <;> rfl

private theorem isNaN_dite {p : Prop} [Decidable p] {f : p → UnpackedFloat}
    {g : ¬ p → UnpackedFloat} (hf : ∀ h, (f h).isNaN = false) (hg : ∀ h, (g h).isNaN = false) :
    (dite p f g).isNaN = false := by
  by_cases h : p
  · rw [dif_pos h, hf]
  · rw [dif_neg h, hg]

private theorem isNaN_unpack_packComponents {s : Sign} {e : BitVec 8} {m : BitVec 23}
    (he : e ≠ -1#8) :
    (UnpackedFloat.unpack .binary32 (packComponents .binary32 s e m)).isNaN = false := by
  -- All ones is the exponent of infinities and NaNs only.
  change (ite (unpackExponent (packComponents .binary32 s e m) = -1#8) _ _ : UnpackedFloat).isNaN =
    false
  rw [unpackExponent_packComponents, if_neg he]
  by_cases hzero : e = 0#8
  · rw [if_pos hzero]
    exact isNaN_dite (fun _ => rfl) fun _ => rfl
  · rw [if_neg hzero]
    rfl

/-- Rounding does not make a NaN of a number. -/
theorem isNaN_repack (u : UnpackedFloat) : (repack u).isNaN = u.isNaN := by
  cases u with
  | notANumber => rfl
  | infinity s => rw [repack_infinity]
  | zero s => rw [repack_zero]
  | finite s m e hm =>
    change (UnpackedFloat.unpack .binary32 (ite (2 ^ 8 ≤ _ + 1) _ _)).isNaN = false
    split
    · -- The number is too great, and an infinity takes its place.
      cases s <;> rfl
    · next hsmall =>
      split
      · -- The greatest exponent is that of NaNs, and this one is less.
        apply isNaN_unpack_packComponents
        intro hexponent
        have hmod := congrArg BitVec.toNat hexponent
        simp only [BitVec.toNat_ofNat, BitVec.toNat_neg] at hmod hsmall
        omega
      · exact isNaN_unpack_packComponents (by decide)

theorem isNaN_roundWithAccuracy (s : Sign) (m : Nat) (e : Int) (a : Accuracy) :
    (roundWithAccuracy .binary32 s m e a).isNaN = false :=
  -- What is left after rounding is a zero, or a mantissa that is not zero.
  isNaN_dite (fun _ => rfl) fun _ => rfl

/-! ### Classes of numbers -/

/-- Whether a number is a zero of either sign. -/
def isZero : UnpackedFloat → Bool
  | .zero _ => true
  | _ => false

theorem isFinite_eq (u : UnpackedFloat) : u.isFinite = (!u.isNaN && !u.isInf) := by
  cases u <;> rfl

private theorem beq_zero_eq (u : UnpackedFloat) : u.beq (.zero .positive) = isZero u := by
  cases u with
  | notANumber | zero => rfl
  | infinity s | finite s => cases s <;> rfl

/-- What is neither a NaN nor at most zero is more than zero. -/
theorem lt_of_not_le {u : UnpackedFloat} (hnan : u.isNaN = false)
    (h : ¬ u.le (.zero .positive) = true) : UnpackedFloat.lt (.zero .positive) u = true := by
  cases u with
  | notANumber => cases hnan
  | zero s => exact absurd rfl h
  | infinity s | finite s =>
    cases s with
    | negative => exact absurd rfl h
    | positive => rfl

/-- The only products that are no numbers are those with a NaN and those of zero and infinity. -/
theorem isNaN_mul (u v : UnpackedFloat) : (UnpackedFloat.mul .binary32 u v).isNaN =
    (u.isNaN || v.isNaN || u.isInf && isZero v || isZero u && v.isInf) := by
  cases u with
  | notANumber | infinity | zero => cases v <;> rfl
  | finite s m e hm =>
    cases v with
    | notANumber | infinity | zero => rfl
    -- Neither factor is special, and their product only has to be rounded.
    | finite s' m' e' hm' => exact isNaN_roundWithAccuracy _ _ _ _

/-- A product with zero is zero or a NaN. -/
theorem mul_of_isZero {u v : UnpackedFloat} (h : isZero u = true ∨ isZero v = true) :
    UnpackedFloat.mul .binary32 u v = .notANumber ∨
      ∃ s, UnpackedFloat.mul .binary32 u v = .zero s := by
  -- By the kinds of both factors: only a finite number and a zero have a product that is zero.
  cases u with
  | notANumber => cases v <;> exact .inl rfl
  | zero s =>
    cases v with
    | notANumber | infinity => exact .inl rfl
    | zero | finite => exact .inr ⟨_, rfl⟩
  | infinity s =>
    cases v with
    | notANumber | zero => exact .inl rfl
    | infinity | finite => rcases h with h | h <;> cases h
  | finite s =>
    cases v with
    | notANumber => exact .inl rfl
    | zero => exact .inr ⟨_, rfl⟩
    | infinity | finite => rcases h with h | h <;> cases h

private theorem isInf_repack_mul {u v : UnpackedFloat} (h : isZero u = true ∨ isZero v = true) :
    (repack (UnpackedFloat.mul .binary32 u v)).isInf = false := by
  rcases mul_of_isZero h with hmul | ⟨s, hmul⟩
  · rw [hmul, repack_notANumber]
    rfl
  · rw [hmul, repack_zero]
    rfl

/-! ### Singles -/

section

variable {x y : Float32}

theorem isNaN_eq (x : Float32) : x.isNaN = x.toModel.unpack.isNaN := rfl

theorem isInf_eq (x : Float32) : x.isInf = x.toModel.unpack.isInf := rfl

theorem isFinite_iff : x.isFinite = true ↔ x.isNaN = false ∧ x.isInf = false := by
  change x.toModel.unpack.isFinite = true ↔ _
  rw [isNaN_eq, isInf_eq, isFinite_eq]
  simp

theorem unpack_zero : (0 : Float32).toModel.unpack = .zero .positive := by
  have hpack : (0 : Float32).toModel = .pack (.zero .positive) := by decide
  rw [hpack]
  exact repack_zero .positive

theorem beq_zero (x : Float32) : (x == 0) = isZero x.toModel.unpack := by
  change x.toModel.unpack.beq (0 : Float32).toModel.unpack = _
  rw [unpack_zero, beq_zero_eq]

theorem le_zero_iff : x ≤ 0 ↔ x.toModel.unpack.le (.zero .positive) = true := by
  rw [← unpack_zero]
  exact decide_eq_true_iff

theorem zero_lt_iff : 0 < x ↔ UnpackedFloat.lt (.zero .positive) x.toModel.unpack = true := by
  rw [← unpack_zero]
  exact decide_eq_true_iff

/-- A number that is not at most zero is positive. -/
theorem pos_of_not_le (hnan : x.isNaN = false) (h : ¬ x ≤ 0) : 0 < x := by
  rw [le_zero_iff] at h
  exact zero_lt_iff.2 (lt_of_not_le hnan h)

/-! ### Products -/

theorem unpack_mul (x y : Float32) :
    (x * y).toModel.unpack =
      repack (UnpackedFloat.mul .binary32 x.toModel.unpack y.toModel.unpack) := rfl

/-- **When a product is a NaN.** -/
theorem isNaN_mul_iff :
    (x * y).isNaN = true ↔ x.isNaN = true ∨ y.isNaN = true ∨
      (x.isInf = true ∧ (y == 0) = true) ∨ ((x == 0) = true ∧ y.isInf = true) := by
  rw [isNaN_eq, unpack_mul, isNaN_repack, isNaN_mul, beq_zero, beq_zero, isNaN_eq, isNaN_eq,
    isInf_eq, isInf_eq]
  simp only [Bool.or_eq_true, Bool.and_eq_true, or_assoc]

/-- An infinity is not the product of zero and something else. -/
theorem ne_zero_of_isInf_mul (h : (x * y).isInf = true) : (x == 0) = false ∧ (y == 0) = false := by
  rw [isInf_eq, unpack_mul] at h
  rw [beq_zero, beq_zero, ← Bool.not_eq_true, ← Bool.not_eq_true]
  constructor
  · intro hx
    cases (isInf_repack_mul (.inl hx)).symm.trans h
  · intro hy
    cases (isInf_repack_mul (.inr hy)).symm.trans h

end

end LSystem.Single
