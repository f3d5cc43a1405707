import LSystem.Proofs.Grammar.Resumption
import LSystem.Proofs.Ribbon.Evaluation
import Mathlib.Algebra.BigOperators.Group.Finset.Basic
import Mathlib.Data.FinEnum
import Mathlib.Data.Matrix.Mul

/-!
# How words grow

If no symbol has two rules, a round replaces every occurrence of a symbol by the same word. How
often a symbol occurs after the round therefore depends only on how often each symbol occurs before
it, and not on where: every occurrence of `a` leaves as many occurrences of `s` as there are in the
replacement of `a`. These numbers make a matrix with a row for each symbol that is replaced
(`Grammar.growth`); a symbol without rules leaves itself. A round multiplies the vector of the
counts by this matrix, so `n` rounds multiply it by its power (`Expansion.counts_level`).

The length of a word is the sum of its counts. It cannot become less if every replacement has a
symbol, which is so in a grammar that has been loaded.
-/

namespace LSystem

open Chance Expansion Matrix

/-! ### Counts -/

/-- How often each symbol occurs in a word. -/
def Word.counts (w : Word) : Symbol → ℕ := fun s => w.count s

/-- **What a symbol leaves of each symbol in a round:** the counts of its replacement, or of itself
if it has no rule. -/
def Grammar.growth (g : Grammar) : Matrix Symbol Symbol ℕ := fun a s =>
  match g.productions a with
  | [] => if a = s then 1 else 0
  | p :: _ => p.replacement.count s

namespace Word

theorem counts_append (v w : Word) : counts (v ++ w) = counts v + counts w := by
  ext s
  exact List.count_append

theorem counts_singleton (a : Symbol) : counts [a] = Pi.single a 1 := by
  ext s
  show List.count s [a] = _
  rw [List.count_singleton, Pi.single_apply]
  exact if_congr (by rw [beq_iff_eq, eq_comm]) rfl rfl

/-- **A word is as long as its symbols are many.** -/
theorem sum_counts (w : Word) : ∑ s, counts w s = w.length := by
  have hall : ∀ s ∈ (w : Multiset Symbol), s ∈ (Finset.univ : Finset Symbol) :=
    fun s _ => Finset.mem_univ s
  have hsum := Multiset.sum_count_eq_card hall
  simp only [Multiset.coe_count, Multiset.coe_card] at hsum
  exact hsum

end Word

namespace Expansion

variable {g : Grammar} {w : Word}

/-! ### Counts of levels -/

/-- A symbol without a choice leaves its row. -/
private theorem counts_of_mem_candidates (hsingle : ∀ s, (g.productions s).length ≤ 1) {a : Symbol}
    {part : Word} (h : part ∈ g.candidates a) : Word.counts part = g.growth a := by
  ext s
  show part.count s = _
  rw [Grammar.candidates] at h
  rw [Grammar.growth]
  -- By how many rules the symbol has, and two are too many here.
  rcases hrules : g.productions a with _ | ⟨p, _ | ⟨p', ps⟩⟩
  · -- Without a rule the symbol stays.
    rw [if_pos hrules, List.mem_singleton] at h
    rw [h, List.count_singleton]
    exact if_congr beq_iff_eq rfl rfl
  · -- With one rule there is one candidate.
    rw [if_neg (by simp [hrules]), hrules, List.map_singleton, List.mem_singleton] at h
    rw [h]
  · have hlength := hsingle a
    rw [hrules, List.length_cons, List.length_cons] at hlength
    omega

/-- **The parts that take the place of a word** have the counts of the word, multiplied by the
growth matrix. -/
theorem counts_flatten (hsingle : ∀ s, (g.productions s).length ≤ 1) {parts : List Word}
    (h : List.Forall₂ (fun a part => part ∈ g.candidates a) w parts) :
    Word.counts parts.flatten = Word.counts w ᵥ* g.growth := by
  induction h with
  | nil => exact (zero_vecMul g.growth).symm
  | @cons a part w parts hpart _ ih =>
    -- The first symbol is one occurrence of itself, and contributes its row.
    calc Word.counts (part :: parts).flatten
        = Word.counts part + Word.counts parts.flatten := by
          rw [List.flatten_cons, Word.counts_append]
      _ = g.growth a + Word.counts w ᵥ* g.growth := by
          rw [counts_of_mem_candidates hsingle hpart, ih]
      _ = Pi.single a 1 ᵥ* g.growth + Word.counts w ᵥ* g.growth := by
          rw [single_one_vecMul]
          rfl
      _ = Word.counts (a :: w) ᵥ* g.growth := by
          rw [← add_vecMul, ← Word.counts_singleton, ← Word.counts_append, List.singleton_append]

/-- **Every round multiplies the counts by the growth matrix.** -/
theorem counts_level (hsingle : ∀ s, (g.productions s).length ≤ 1) (w : Word) (rng : Generator)
    (k : ℕ) : Word.counts (level g (w, rng) k).1 = Word.counts w ᵥ* g.growth ^ k := by
  induction k with
  | zero => rw [level_zero, pow_zero, vecMul_one]
  | succ k ih =>
    -- The next level is one candidate for each symbol, whatever was drawn.
    obtain ⟨parts, hparts, hcandidates⟩ :=
      exists_parts g (level g (w, rng) k).1 (level g (w, rng) k).2
    calc Word.counts (level g (w, rng) (k + 1)).1
        = Word.counts parts.flatten := by rw [level_succ', nextLevel, hparts]
      _ = Word.counts (level g (w, rng) k).1 ᵥ* g.growth := counts_flatten hsingle hcandidates
      _ = Word.counts w ᵥ* (g.growth ^ k * g.growth) := by rw [ih, vecMul_vecMul]
      _ = Word.counts w ᵥ* g.growth ^ (k + 1) := by rw [pow_succ]

end Expansion

/-- **Exact growth.** If no symbol has two rules, the counts of what a word has become after `n`
rounds are the counts of the word, multiplied by the `n`-th power of the growth matrix, and their
sum is its length. A grammar that has been loaded makes no word shorter, however long it grows. -/
theorem Grammar.counts_expand {g : Grammar} (hsingle : ∀ s, (g.productions s).length ≤ 1)
    {w c : Word} {seed : UInt64} {n : UInt32} (hc : g.expand seed n w = .ok c) :
    (∀ s, c.count s = (Word.counts w ᵥ* g.growth ^ n.toNat) s) ∧
    c.length = ∑ s, (Word.counts w ᵥ* g.growth ^ n.toNat) s ∧
    ∀ d, ofDescription d = .ok g → ∀ (seed' : UInt64) (n' : UInt32), n ≤ n' →
      ∀ c', g.expand seed' n' w = .ok c' → c.length ≤ c'.length := by
  obtain ⟨-, rfl⟩ := expand_eq_ok_iff.1 hc
  have hcounts := counts_level hsingle w (.ofSeed seed) n.toNat
  refine ⟨?_, ?_, ?_⟩
  · intro s
    rw [← hcounts]
    rfl
  · rw [← hcounts, Word.sum_counts]
  · intro d hd seed' n' hn c' hc'
    have hloaded := loaded_of_ofDescription hd
    -- The seed does not matter, so both words are levels of one expansion.
    rw [expand_eq_of_single (fun s => Nat.lt_succ_of_le (hsingle s)) seed' seed] at hc'
    obtain ⟨-, rfl⟩ := expand_eq_ok_iff.1 hc'
    have hne : ∀ s, ∀ p ∈ g.productions s, p.replacement ≠ [] :=
      fun _ _ hp => hloaded.replacement_ne_nil hp
    exact monotone_length_level hne w (.ofSeed seed) (UInt32.le_iff_toNat_le.1 hn)

/-- Algae of two kinds of cells that become each other, and of branches that persist. -/
def Grammar.algae : Description where
  start := .text "+A"
  rules := [
    { symbol := "A", replacement := .text "A[B]F" },
    { symbol := "B", replacement := .text "A", weight := 9 }]

/-- What the algae have become after four rounds is counted, and it is not longer than after six. -/
theorem Grammar.counts_expand_algae :
    ∃ g c c', ofDescription algae = .ok g ∧ (∀ s, (g.productions s).length ≤ 1) ∧
      g.expand 3 4 g.start = .ok c ∧ g.expand 8 6 g.start = .ok c' ∧
      (∀ s, c.count s = (Word.counts g.start ᵥ* g.growth ^ 4) s) ∧
      c.length = ∑ s, (Word.counts g.start ᵥ* g.growth ^ 4) s ∧ c.length ≤ c'.length := by
  have hload : IsLoadable algae := by decide +kernel
  have hsteady : algae.IsSteady := ⟨by decide +kernel, by decide +kernel, by decide +kernel⟩
  have hrules : ∀ name, (algae.rulesFor name).length ≤ 1 := by
    intro name
    rw [Description.rulesFor, algae, List.filter_cons, List.filter_singleton]
    grind
  obtain ⟨g, hg⟩ := hload.exists_ofDescription
  have hloaded := loaded_of_ofDescription hg
  have hsingle : ∀ s, (g.productions s).length ≤ 1 :=
    fun s => Nat.le_of_lt_succ (hloaded.length_productions_lt hrules s)
  -- The algae are steady, so their rounds all end well, with whatever seed.
  obtain ⟨c, hc, -⟩ := hloaded.exists_expand hsteady 3 4
  obtain ⟨c', hc', -⟩ := hloaded.exists_expand hsteady 8 6
  obtain ⟨hcount, hlength, hgrows⟩ := counts_expand hsingle hc
  exact ⟨g, c, c', hg, hsingle, hc, hc', hcount, hlength, hgrows _ hg 8 6 (by decide) c' hc'⟩

end LSystem
