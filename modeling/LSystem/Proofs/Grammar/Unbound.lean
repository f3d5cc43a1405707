import LSystem.Grammar.Loading
import LSystem.Proofs.Grammar.Levels
import LSystem.Proofs.Symbol.Interning
import Mathlib.Data.List.Iterate
import Mathlib.Data.List.Permutation

/-!
# Unbound symbols

A symbol without rules and without a meaning cannot be replaced and cannot be drawn, so an expansion
that comes to one fails (`Grammar.IsUnbound`). Which symbol it reports does not depend on where the
expansion looks for it: a round goes through its word from left to right before the next round
begins, and so does the check of the last word. The first level with an unbound symbol therefore
decides, and on it the symbol that stands leftmost.

What does depend on it is the generation that is reported. A round looks at the word that it
replaces, so the symbols of level `k` are met in round `k + 1`, unless `k` is the last level. That
one is checked without a round of its own, and what is found there counts to the last round. Both
are the lesser one of `k + 1` and the number of rounds (`expand_unbound`).
-/

namespace LSystem

open Chance

/-- **An unbound symbol** has neither a rule nor a meaning. -/
def Grammar.IsUnbound (g : Grammar) (s : Symbol) : Prop :=
  g.productions s = [] ∧ g.meaning? s = none

instance (g : Grammar) (s : Symbol) : Decidable (g.IsUnbound s) :=
  inferInstanceAs (Decidable (g.productions s = [] ∧ g.meaning? s = none))

namespace Expansion

variable {g : Grammar} {w : Word} {s : Symbol}

theorem isUnbound_iff : g.IsUnbound s ↔ g.isBound s = false := by
  rw [Grammar.IsUnbound, ← Grammar.ruleSet?_eq_none_iff, Grammar.isBound, Bool.or_eq_false_iff,
    Option.isSome_eq_false_iff, Option.isSome_eq_false_iff, Option.isNone_iff_eq_none,
    Option.isNone_iff_eq_none]

theorem unbound?_eq_none_iff_forall : unbound? g w = none ↔ ∀ s ∈ w, ¬ g.IsUnbound s := by
  rw [unbound?_eq_none_iff]
  refine forall₂_congr fun s _ => ?_
  rw [isUnbound_iff, Bool.not_eq_false]

/-- The symbol that is reported stands leftmost. -/
theorem unbound?_append_cons {before behind : Word} (hs : g.IsUnbound s)
    (hbefore : ∀ s' ∈ before, ¬ g.IsUnbound s') :
    unbound? g (before ++ s :: behind) = some s := by
  have hnone : unbound? g before = none := unbound?_eq_none_iff_forall.2 hbefore
  have hnot : (!g.isBound s) = true := by rw [isUnbound_iff.1 hs, Bool.not_false]
  rw [unbound?, List.find?_append, ← unbound?, hnone, Option.none_or]
  exact List.find?_cons_of_pos hnot

end Expansion

open Expansion

/-- **Unbound symbols are reported where they first turn up.** As long as there are none, a level is
what the rounds lead to. An expansion fails exactly if there is one on some level, the last one
included. On the first such level the leftmost one is reported, with its token if it has one and
with the round that would have had to replace it, or the last round if there is none. -/
theorem Grammar.expand_unbound (g : Grammar) (seed : UInt64) (generations : UInt32) (w : Word) :
    let n := generations.toNat
    let word := fun k => (level g (w, .ofSeed seed) k).1
    (∀ k, (∀ j < k, ∀ s ∈ word j, ¬ g.IsUnbound s) →
      (rounds g k 0 w).run (.ofSeed seed) = .ok (level g (w, .ofSeed seed) k)) ∧
    ((∃ e, g.expand seed generations w = .error e) ↔ ∃ k ≤ n, ∃ s ∈ word k, g.IsUnbound s) ∧
    ∀ k ≤ n, (∀ j < k, ∀ s ∈ word j, ¬ g.IsUnbound s) →
      ∀ before s behind, word k = before ++ s :: behind →
        (∀ s' ∈ before, ¬ g.IsUnbound s') → g.IsUnbound s →
          g.expand seed generations w =
            .error (.unbound ((g.symbols.name? s).getD "") (min (k + 1) n)) := by
  intro n word
  refine ⟨fun k hbound => ?_, ?_, fun k hk hearlier before s behind hword hbefore hs => ?_⟩
  · exact run_rounds_of_bound 0 fun j hj => unbound?_eq_none_iff_forall.2 (hbound j hj)
  · -- It fails if it does not succeed, which it does if nothing is unbound.
    have hok : (∃ c, g.expand seed generations w = .ok c) ↔
        ∀ k ≤ n, ∀ s ∈ word k, ¬ g.IsUnbound s := by
      rw [exists_expand_iff]
      exact forall₂_congr fun k _ => unbound?_eq_none_iff_forall
    have herror : (∃ e, g.expand seed generations w = .error e) ↔
        ¬ ∃ c, g.expand seed generations w = .ok c := by
      cases g.expand seed generations w <;> simp
    rw [herror, hok]
    push Not
    rfl
  · -- The level is the first with an unbound symbol, and the symbol the first one on it.
    have hnone : ∀ j < k, unbound? g (word j) = none :=
      fun j hj => unbound?_eq_none_iff_forall.2 (hearlier j hj)
    have hfirst : unbound? g (word k) = some s := by
      rw [hword]
      exact unbound?_append_cons hs hbefore
    exact expand_of_unbound hk hnone hfirst

/-- A bud that grows until it opens and bears a leaf that nothing is known of. -/
def Grammar.bud (symbols : SymbolTable) : Grammar where
  symbols
  start := [0]
  rules := group [(0, ⟨[1, 0], 1⟩), (0, ⟨[1, 3], 1⟩), (3, ⟨[2, 1, 2], 1⟩)]
  meanings := (∅ : Meanings).insert 1 .forward

/-- The bud has opened after the first round and bears the leaf after the second one. If there are
more rounds, the leaf is met in the third, and otherwise it counts to the second. A symbol that is
not in the table has no token, and it is found without a round. -/
theorem Grammar.expand_bud_unbound :
    ∃ t : SymbolTable, t.toList = ["bud", "F", "leaf"] ∧
      (bud t).expand 0 2 [0] = .error (.unbound "leaf" 2) ∧
      (bud t).expand 0 9 [0] = .error (.unbound "leaf" 3) ∧
      (bud t).expand 0 0 [0, 7, 2] = .error (.unbound "" 0) := by
  -- Any table of these tokens will do, and there is one since they are admitted.
  have hadmits : SymbolTable.empty.Admits ["bud", "F", "leaf"] := by decide
  obtain ⟨_, t, hintern⟩ := SymbolTable.exists_internTokens hadmits
  have htokens : t.toList = ["bud", "F", "leaf"] :=
    (SymbolTable.numbered_of_internTokens hintern).toList_eq
  have hleaf : (bud t).symbols.name? 2 = some "leaf" := by
    rw [SymbolTable.name?_eq_getElem?]
    exact congrArg (·[2]?) htokens
  have hseven : (bud t).symbols.name? 7 = none := by
    rw [SymbolTable.name?_eq_getElem?]
    exact congrArg (·[7]?) htokens
  have hbound : ∀ s ∈ [0, 1, 3], ¬ (bud t).IsUnbound s := by
    have hall : [0, 1, 3].all (bud t).isBound = true := by cbv
    intro s hs
    rw [isUnbound_iff, List.all_eq_true.1 hall s hs]
    exact Bool.noConfusion
  have hunbound : (bud t).IsUnbound 2 ∧ (bud t).IsUnbound 7 := by cbv
  have hopened : (level (bud t) ([0], .ofSeed 0) 1).1 = [1, 3] := by cbv
  have hgrown : (level (bud t) ([0], .ofSeed 0) 2).1 = [1] ++ 2 :: [1, 2] := by cbv
  -- The leaf comes up on level two, so the two levels before have to be bound.
  have hearlier : ∀ j < 2, ∀ s ∈ (level (bud t) ([0], .ofSeed 0) j).1, ¬ (bud t).IsUnbound s := by
    intro j hj s hs
    obtain rfl | rfl : j = 0 ∨ j = 1 := by omega
    · exact hbound s (List.mem_append_left [1, 3] hs)
    · exact hbound s (List.mem_cons_of_mem 0 (hopened ▸ hs))
  have hleft : ∀ s ∈ ([1] : Word), ¬ (bud t).IsUnbound s := by simpa using hbound 1
  obtain ⟨-, -, htwo⟩ := expand_unbound (bud t) 0 2 [0]
  obtain ⟨-, -, hnine⟩ := expand_unbound (bud t) 0 9 [0]
  obtain ⟨-, -, hnone⟩ := expand_unbound (bud t) 0 0 [0, 7, 2]
  refine ⟨t, htokens, ?_, ?_, ?_⟩
  · rw [htwo 2 (by decide) hearlier [1] 2 [1, 2] hgrown hleft hunbound.1, hleaf]
    rfl
  · rw [hnine 2 (by decide) hearlier [1] 2 [1, 2] hgrown hleft hunbound.1, hleaf]
    rfl
  · rw [hnone 0 le_rfl (by simp) [0] 7 [2] rfl (by simpa using hbound 0) hunbound.2, hseven]
    rfl

end LSystem
