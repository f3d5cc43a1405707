import LSystem.Grammar.Loading
import LSystem.Proofs.Grammar.Levels
import Mathlib.Data.List.Forall2
import Mathlib.Data.List.Iterate
import Mathlib.Data.List.Permutation

/-!
# Derivations

A rule rewrites its symbol, and a terminal symbol is rewritten as itself (`Grammar.Rewrites`). What
a word becomes in this way can be told as a forest with one tree for each of its symbols: below a
symbol stand the symbols that it is rewritten as, and what the word becomes is read off the leaves
from left to right (`DerivationTree.yield`).

An expansion goes through all symbols of a level before it comes to the next level, with one
generator for all of them, and knows nothing of trees. The forest is put together level by level.
The first round says what stands below the symbols of the word, and the forest of the other rounds
has a tree for each of those; cut into one piece for every symbol of the word, it is grafted onto
the word (`exists_graft`). So the induction takes off the first round and not the last one, where
every leaf would have to be replaced by a tree.

`expand_eq_yield` says that every expansion is the yield of such a forest, whose leaves are all as
deep as there are rounds.
-/

namespace LSystem

open Chance Expansion

/-! ### Rewriting -/

/-- **What a symbol may be rewritten as** in a round: one of its replacements, and itself if it
is terminal. -/
inductive Grammar.Rewrites (g : Grammar) (s : Symbol) : Word → Prop
  | rule {p : Production} (h : p ∈ g.productions s) : g.Rewrites s p.replacement
  | terminal (h : g.isTerminal s = true) : g.Rewrites s [s]

/-- A bound symbol is rewritten as one of its candidates. -/
private theorem Grammar.rewrites_of_mem_candidates {g : Grammar} {s : Symbol} {part : Word}
    (hbound : g.isBound s = true) (hpart : part ∈ g.candidates s) : g.Rewrites s part := by
  rw [candidates] at hpart
  by_cases hrules : g.productions s = []
  · -- Without rules it is bound by its meaning, so it is terminal.
    rw [if_pos hrules, List.mem_singleton] at hpart
    subst hpart
    have hnone : g.ruleSet? s = none := (ruleSet?_eq_none_iff g s).2 hrules
    rw [isBound_eq, hnone, Option.isSome_none, Bool.or_false] at hbound
    exact .terminal hbound
  · rw [if_neg hrules] at hpart
    obtain ⟨p, hp, rfl⟩ := List.mem_map.1 hpart
    exact .rule hp

/-- **A round rewrites every symbol of a word,** if all of them are bound. -/
theorem Expansion.exists_parts_of_bound {g : Grammar} {w : Word} (h : unbound? g w = none)
    (rng : Generator) :
    ∃ parts, (substituteWord g w rng).1 = parts.flatten ∧ List.Forall₂ g.Rewrites w parts := by
  obtain ⟨parts, hparts, hcandidates⟩ := exists_parts g w rng
  refine ⟨parts, hparts, ?_⟩
  have hbound : ∀ s ∈ w, g.isBound s = true := unbound?_eq_none_iff.1 h
  have hboth : List.Forall₂ (fun s part => g.isBound s = true ∧ part ∈ g.candidates s) w parts :=
    (List.forall₂_and_left w parts).2 ⟨hbound, hcandidates⟩
  exact hboth.imp fun s part hpart => g.rewrites_of_mem_candidates hpart.1 hpart.2

/-! ### Trees -/

/-- What becomes of a symbol: nothing any more, or the symbols below it and what becomes of
those. -/
inductive DerivationTree where
  | leaf (s : Symbol)
  | node (s : Symbol) (children : List DerivationTree)

namespace DerivationTree

/-- The symbol on top of a tree. -/
def root : DerivationTree → Symbol
  | leaf s => s
  | node s _ => s

mutual

/-- **The leaves of a tree,** from left to right. -/
def yield : DerivationTree → Word
  | leaf s => [s]
  | node _ children => yieldAll children

/-- The leaves of several trees. -/
def yieldAll : List DerivationTree → Word
  | [] => []
  | t :: ts => t.yield ++ yieldAll ts

end

private theorem yieldAll_eq_flatMap (ts : List DerivationTree) :
    yieldAll ts = ts.flatMap yield := by
  induction ts with
  | nil => rfl
  | cons t ts ih => rw [yieldAll, ih, List.flatMap_cons]

@[simp] theorem yield_node (s : Symbol) (children : List DerivationTree) :
    (node s children).yield = children.flatMap yield := yieldAll_eq_flatMap children

end DerivationTree

open DerivationTree

/-- **A tree of `n` rounds:** every leaf is `n` levels below the top, and the symbols right below
another one are what that one is rewritten as. -/
inductive Grammar.IsDerivation (g : Grammar) : Nat → DerivationTree → Prop
  | leaf (s : Symbol) : g.IsDerivation 0 (.leaf s)
  | node {n : Nat} {s : Symbol} {children : List DerivationTree}
      (rewrites : g.Rewrites s (children.map root))
      (isDerivation : ∀ t ∈ children, g.IsDerivation n t) :
      g.IsDerivation (n + 1) (.node s children)

namespace Expansion

variable {g : Grammar}

/-- **Grafting.** If every symbol of a word is rewritten, and there are trees for what it is
rewritten as, then there are trees for the word, one level higher and with the same leaves. -/
theorem exists_graft {n : Nat} {w : Word} {parts : List Word}
    (hparts : List.Forall₂ g.Rewrites w parts) {trees : List DerivationTree}
    (hroots : trees.map root = parts.flatten) (htrees : ∀ t ∈ trees, g.IsDerivation n t) :
    ∃ grafted : List DerivationTree, grafted.map root = w ∧
      (∀ t ∈ grafted, g.IsDerivation (n + 1) t) ∧
      grafted.flatMap yield = trees.flatMap yield := by
  induction hparts generalizing trees with
  | nil =>
    rw [List.flatten_nil, List.map_eq_nil_iff] at hroots
    subst hroots
    exact ⟨[], rfl, by simp, rfl⟩
  | @cons s part w parts hpart _ ih =>
    -- The first trees belong below the first symbol.
    rw [List.flatten_cons, List.map_eq_append_iff] at hroots
    obtain ⟨children, others, rfl, hchildren, hothers⟩ := hroots
    rw [List.forall_mem_append] at htrees
    obtain ⟨grafted, hw, hgrafted, hyield⟩ := ih hothers htrees.2
    have hrewrites : g.Rewrites s (children.map root) := hchildren ▸ hpart
    refine ⟨.node s children :: grafted, ?_, ?_, ?_⟩
    · rw [List.map_cons, hw]
      rfl
    · exact List.forall_mem_cons.2 ⟨.node hrewrites htrees.1, hgrafted⟩
    · rw [List.flatMap_cons, List.flatMap_append, yield_node, hyield]

/-- **Every level has a forest,** if nothing is unbound on the levels before it. -/
theorem exists_forest {n : Nat} {w : Word} {rng : Generator}
    (h : ∀ k < n, unbound? g (level g (w, rng) k).1 = none) :
    ∃ trees : List DerivationTree, trees.map root = w ∧ (∀ t ∈ trees, g.IsDerivation n t) ∧
      trees.flatMap yield = (level g (w, rng) n).1 := by
  induction n generalizing w rng with
  | zero =>
    -- Without a round every symbol is a leaf.
    refine ⟨w.map .leaf, ?_, ?_, ?_⟩
    · rw [List.map_map]
      exact List.map_id w
    · intro t ht
      obtain ⟨s, -, rfl⟩ := List.mem_map.1 ht
      exact .leaf s
    · rw [List.flatMap_map]
      exact List.flatMap_singleton' w
  | succ n ih =>
    have hw : unbound? g w = none := h 0 (Nat.succ_pos n)
    obtain ⟨parts, hfirst, hparts⟩ := exists_parts_of_bound hw rng
    -- The levels behind the first round are those of what it leaves.
    have hrest : ∀ k < n, unbound? g (level g (nextLevel g (w, rng)) k).1 = none :=
      fun k hk => h (k + 1) (Nat.succ_lt_succ hk)
    obtain ⟨trees, hroots, htrees, hyield⟩ := ih hrest
    have hroots' : trees.map root = parts.flatten := hroots.trans hfirst
    obtain ⟨grafted, hgrafted, hderivation, hsame⟩ := exists_graft hparts hroots' htrees
    exact ⟨grafted, hgrafted, hderivation, hsame.trans hyield⟩

end Expansion

/-- **Every expansion is a derivation.** It consists of one block for each symbol of the word, in
their order, and a block is what a tree with this symbol on top yields. All leaves of the trees are
as deep as there are rounds. Everything in an expansion is bound. -/
theorem Grammar.expand_eq_yield {g : Grammar} {seed : UInt64} {generations : UInt32} {w c : Word}
    (h : g.expand seed generations w = .ok c) :
    (∃ trees : List DerivationTree, trees.map root = w ∧
      (∀ t ∈ trees, g.IsDerivation generations.toNat t) ∧ c = trees.flatMap yield) ∧
    ∀ s ∈ c, g.isBound s = true := by
  obtain ⟨hbound, rfl⟩ := expand_eq_ok_iff.1 h
  constructor
  · obtain ⟨trees, hroots, htrees, hyield⟩ := exists_forest fun k hk => hbound k (Nat.le_of_lt hk)
    exact ⟨trees, hroots, htrees, hyield.symm⟩
  · exact unbound?_eq_none_iff.1 (hbound _ (Nat.le_refl _))

/-- A thicket of three symbols: the first one has two rules, the second one has one, and the third
one stays what it is. -/
def Grammar.thicket : Grammar where
  symbols := .empty
  start := [0, 1]
  rules := group [(0, ⟨[0, 1, 0], 1⟩), (1, ⟨[2, 1], 1⟩), (0, ⟨[1], 2⟩)]
  meanings := (∅ : Meanings).insert 2 .forward

/-- The thicket grows for two rounds, and both rules of the first symbol are used. -/
theorem Grammar.expand_thicket_eq_yield :
    thicket.expand 2 2 [0, 1] = .ok [0, 1, 0, 2, 1, 1, 2, 2, 1] ∧
    ∃ trees : List DerivationTree, trees.map root = [0, 1] ∧
      (∀ t ∈ trees, thicket.IsDerivation 2 t) ∧
      trees.flatMap yield = [0, 1, 0, 2, 1, 1, 2, 2, 1] := by
  have hexpand : thicket.expand 2 2 [0, 1] = .ok [0, 1, 0, 2, 1, 1, 2, 2, 1] :=
    expand_eq_ok_of_all (by cbv) (by cbv)
  obtain ⟨⟨trees, hroots, htrees, hyield⟩, -⟩ := expand_eq_yield hexpand
  exact ⟨hexpand, trees, hroots, htrees, hyield.symm⟩

end LSystem
