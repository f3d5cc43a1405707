import LSystem.Ascending
import LSystem.Chance.ChaCha

/-!
# Choices by weight

A weighted choice draws a number below the sum of the weights, every one of them with
the same chance, and takes the weight into whose share the number falls
(`Sampler.sample_ofWeights`). The share is found by where the shares end.

A word times a bound `n` has its upper half below `n`; it is fair as long as the lower
half does not come from the last, incomplete share of the words. `below` draws until that
is so, and gives up after a thousand refusals, which do not happen.
-/

namespace LSystem.Chance

/-- The number of words. -/
def wordCount : Nat := 4294967296

/-- The greatest lower half for which a draw below `n` is fair. -/
def fairZone (n : Nat) : Nat := wordCount - 1 - (wordCount - n) % n

/-- Draws a number below `n`, with at most `fuel` refusals; the word after these is taken, fair or
not. -/
def drawBelow (n : Nat) : (fuel : Nat) → Generator → Nat × Generator
  | 0, g =>
    let (w, g) := g.next
    (w.toNat * n / wordCount, g)
  | fuel + 1, g =>
    let (w, g) := g.next
    let product := w.toNat * n
    if product % wordCount ≤ fairZone n then (product / wordCount, g) else drawBelow n fuel g

/-- **Draws a number below `n`.** A deviation: a draw should go on until a word is fair, however
long that takes, and this one takes the thousand and first word as it is. A word is refused with
a chance below one half, so the two differ with a chance below `2 ^ -1000`. -/
def Generator.below (g : Generator) (n : Nat) : Nat × Generator := drawBelow n 1000 g

/-- A number drawn below `n` is below `n`. -/
theorem drawBelow_lt {n : Nat} (h : 0 < n) (fuel : Nat) (g : Generator) :
    (drawBelow n fuel g).1 < n := by
  -- Whether a word is taken or not, its upper half is below `n`.
  have hword (w : UInt32) : w.toNat * n / wordCount < n := by
    rw [Nat.div_lt_iff_lt_mul (by decide)]
    calc w.toNat * n < wordCount * n := Nat.mul_lt_mul_of_pos_right w.toNat_lt h
      _ = n * wordCount := Nat.mul_comm _ _
  induction fuel generalizing g with
  | zero => exact hword _
  | succ fuel ih =>
    simp only [drawBelow]
    split
    · exact hword _
    · exact ih _

/-- What a generator draws below `n` is below `n`. -/
theorem Generator.below_lt {n : Nat} (h : 0 < n) (g : Generator) : (g.below n).1 < n := by
  rw [Generator.below]
  exact drawBelow_lt h _ g

/-! ### Shares -/

/-- The sum of weights. -/
def sumOf (weights : List UInt32) : Nat := weights.foldr (fun w n => w.toNat + n) 0

@[simp] theorem sumOf_nil : sumOf [] = 0 := rfl

@[simp] theorem sumOf_cons (w : UInt32) (ws : List UInt32) :
    sumOf (w :: ws) = w.toNat + sumOf ws := rfl

/-- The place of the weight into whose share a number falls, the shares following one
another from zero. -/
def shareOf (r : Nat) : List UInt32 → Nat
  | [] => 0
  | w :: ws => if r < w.toNat then 0 else shareOf (r - w.toNat) ws + 1

/-- Where the shares of weights end, the first of them beginning at `start`. -/
def endsFrom (start : Nat) : List UInt32 → List Nat
  | [] => []
  | w :: ws => (start + w.toNat) :: endsFrom (start + w.toNat) ws

/-- Adds the ends of shares to an array, the first share beginning at `start`. -/
def endsOnto (ends : Array Nat) (start : Nat) : List UInt32 → Array Nat
  | [] => ends
  | w :: ws => endsOnto (ends.push (start + w.toNat)) (start + w.toNat) ws

private theorem toList_endsOnto (ends : Array Nat) (start : Nat) (weights : List UInt32) :
    (endsOnto ends start weights).toList = ends.toList ++ endsFrom start weights := by
  induction weights generalizing ends start with
  | nil => simp [endsOnto, endsFrom]
  | cons w ws ih => simp [endsOnto, endsFrom, ih]

@[simp] theorem length_endsFrom (start : Nat) (weights : List UInt32) :
    (endsFrom start weights).length = weights.length := by
  induction weights generalizing start with
  | nil => rfl
  | cons w ws ih => simp [endsFrom, ih]

/-- Shares end where they begin or behind it, and the last one where their sum says. -/
private theorem getLastD_endsFrom (start : Nat) (weights : List UInt32) :
    (endsFrom start weights).getLastD start = start + sumOf weights := by
  induction weights generalizing start with
  | nil => rfl
  | cons w ws ih =>
    rw [endsFrom, List.getLastD_cons, ih, sumOf_cons]
    omega

theorem le_of_mem_endsFrom {start n : Nat} {weights : List UInt32}
    (h : n ∈ endsFrom start weights) : start ≤ n := by
  induction weights generalizing start with
  | nil => cases h
  | cons w ws ih =>
    rcases List.mem_cons.1 h with rfl | h
    · omega
    · have := ih h
      omega

/-- Shares end one after the other. -/
private theorem pairwise_endsFrom (start : Nat) (weights : List UInt32) :
    (endsFrom start weights).Pairwise (· ≤ ·) := by
  induction weights generalizing start with
  | nil => exact List.Pairwise.nil
  | cons w ws ih => exact List.pairwise_cons.2 ⟨fun _ h => le_of_mem_endsFrom h, ih _⟩

/-- The shares that end at most at `r` are those before the share into which `r` falls. -/
private theorem getElem_endsFrom_le_iff {start r i : Nat} {weights : List UInt32} (hr : start ≤ r)
    (hi : i < (endsFrom start weights).length) :
    (endsFrom start weights)[i] ≤ r ↔ i < shareOf (r - start) weights := by
  induction weights generalizing start i with
  | nil => cases hi
  | cons w ws ih =>
    rw [shareOf]
    by_cases h : r - start < w.toNat
    · -- The number falls into the first share, so every share ends beyond it.
      simp only [h, if_true, Nat.not_lt_zero, iff_false, Nat.not_le]
      have hfirst : ∀ n ∈ endsFrom start (w :: ws), start + w.toNat ≤ n := fun n hn =>
        (List.mem_cons.1 hn).elim (fun h => Nat.le_of_eq h.symm) le_of_mem_endsFrom
      have := hfirst _ (List.getElem_mem hi)
      omega
    · simp only [h, if_false]
      -- The first share is passed over, on both sides: by its end here, by its weight in the
      -- number.
      cases i with
      | zero => simp only [endsFrom, List.getElem_cons_zero]; omega
      | succ i =>
        simp only [endsFrom, List.getElem_cons_succ]
        rw [ih (by omega), ← Nat.sub_sub]
        omega

/-- A number below the sum of the weights falls into the share of one of them. -/
private theorem shareOf_lt {r : Nat} {weights : List UInt32} (h : r < sumOf weights) :
    shareOf r weights < weights.length := by
  induction weights generalizing r with
  | nil => cases h
  | cons w ws ih =>
    rw [shareOf]
    -- A number beyond the first share is looked for among the other weights.
    split
    · simp
    · rw [sumOf_cons] at h
      have := ih (r := r - w.toNat) (by omega)
      simp only [List.length_cons]
      omega

/-! ### Samplers -/

/-- What chooses among several things by their weights: where their shares end. -/
structure Sampler where
  ends : Array Nat
deriving DecidableEq, Repr

namespace Sampler

/-- What chooses by the given weights. -/
def ofWeights (weights : List UInt32) : Sampler := ⟨endsOnto #[] 0 weights⟩

/-- The number of things to choose from. -/
def size (s : Sampler) : Nat := s.ends.size

/-- The sum of the weights: where the last share ends. -/
def total (s : Sampler) : Nat := s.ends.getD (s.ends.size - 1) 0

/-- **Makes a choice:** the place of the thing that is chosen. -/
def sample (s : Sampler) (g : Generator) : Nat × Generator :=
  let drawn := g.below s.total
  (Ascending.countUpTo s.ends drawn.1, drawn.2)

/-- A choice is one of the things. -/
theorem sample_lt {s : Sampler} (h : 0 < s.total) (g : Generator) :
    (s.sample g).1 < s.size :=
  Ascending.countUpTo_lt (g.below_lt h)

theorem toList_ends_ofWeights (weights : List UInt32) :
    (ofWeights weights).ends.toList = endsFrom 0 weights := by
  simp [ofWeights, toList_endsOnto]

/-- There is a thing for every weight. -/
@[simp] theorem size_ofWeights (weights : List UInt32) :
    (ofWeights weights).size = weights.length := by
  rw [size, ← Array.length_toList, toList_ends_ofWeights, length_endsFrom]

/-- The last share ends at the sum of the weights. -/
@[simp] theorem total_ofWeights (weights : List UInt32) :
    (ofWeights weights).total = sumOf weights := by
  have hlast := getLastD_endsFrom 0 weights
  rw [List.getLastD_eq_getLast?, List.getLast?_eq_getElem?, Nat.zero_add] at hlast
  rw [total, Array.getD_eq_getD_getElem?, ← Array.getElem?_toList, ← Array.length_toList,
    toList_ends_ofWeights, hlast]

/-- A choice is the thing into whose share the number falls that was drawn. -/
theorem sample_ofWeights {weights : List UInt32} (h : 0 < sumOf weights) (g : Generator) :
    (ofWeights weights).sample g =
      (shareOf (g.below (sumOf weights)).1 weights, (g.below (sumOf weights)).2) := by
  have hr := g.below_lt h
  rw [sample, total_ofWeights]
  generalize g.below (sumOf weights) = drawn at hr
  refine Prod.ext ?_ rfl
  -- The two places divide the shares in the same way, and both are places of shares.
  have hsize : (ofWeights weights).ends.size = weights.length := size_ofWeights weights
  have hlt := shareOf_lt hr
  have hcount := Ascending.countUpTo_le (ofWeights weights).ends drawn.1
  have hiff {i : Nat} (hi : i < weights.length) :
      i < Ascending.countUpTo (ofWeights weights).ends drawn.1 ↔ i < shareOf drawn.1 weights := by
    rw [← Ascending.getElem_le_iff (by rw [toList_ends_ofWeights]; exact pairwise_endsFrom 0 _)
      (hsize ▸ hi)]
    have hshare : i < (endsFrom 0 weights).length := by simpa
    have hshares := getElem_endsFrom_le_iff (Nat.zero_le drawn.1) hshare
    rw [Nat.sub_zero] at hshares
    rw [← hshares]
    simp only [← Array.getElem_toList, toList_ends_ofWeights]
  refine Nat.le_antisymm (Nat.le_of_not_lt fun hc => ?_) (Nat.le_of_not_lt fun hc => ?_)
  · exact Nat.lt_irrefl _ ((hiff hlt).1 hc)
  · exact Nat.lt_irrefl _ ((hiff (by omega)).2 hc)

end Sampler

end LSystem.Chance
