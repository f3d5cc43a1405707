import LSystem.Proofs.Grammar.Levels
import LSystem.Proofs.Pairs
import LSystem.Proofs.Turtle.Branches

/-!
# Steady grammars

Two things can go wrong on the way from a word to its trace: a symbol is unbound, or the branches
are not balanced. A word is *drawable* if neither is the case. In a steady grammar all replacements
are drawable and the symbols that are replaced neither begin nor end a branch; then every level of
a drawable word is drawable (`IsSteady.isDrawable_level`), whatever the generator chooses.

The second condition is needed. A word is balanced because of all of its symbols together, so
nothing can be said of a word when one of its brackets is replaced by a balanced word. A symbol that
is no bracket changes no depth, and neither does a balanced word, so one may stand for the other at
any depth (`depth?_flatten`).
-/

namespace LSystem.Grammar

open Turtle Chance Expansion

/-- A word of bound symbols with balanced branches. -/
structure IsDrawable (g : Grammar) (r : Repertoire) (w : Word) : Prop where
  isBound : ∀ s ∈ w, g.isBound s = true
  balanced : Balanced (w.map r.operation)

/-- **A steady grammar:** replacements are drawable, and what they replace is no bracket. -/
structure IsSteady (g : Grammar) (r : Repertoire) : Prop where
  isDrawable : ∀ s, ∀ p ∈ g.productions s, g.IsDrawable r p.replacement
  isNeutral : ∀ s, g.productions s ≠ [] → (r.operation s).IsNeutral

variable {g : Grammar} {r : Repertoire} {w : Word}

/-- A bound symbol stays bound, whatever takes its place. -/
private theorem IsSteady.isBound_of_mem_candidates (h : g.IsSteady r) {s : Symbol} {part : Word}
    (hbound : g.isBound s = true) (hpart : part ∈ g.candidates s) :
    ∀ s' ∈ part, g.isBound s' = true := by
  rcases eq_or_exists_of_mem_candidates hpart with rfl | ⟨p, hp, rfl⟩
  · intro s' hs'
    rw [List.mem_singleton.1 hs']
    exact hbound
  · exact (h.isDrawable s p hp).isBound

/-- Whatever takes the place of a symbol changes a depth in the same way. -/
private theorem IsSteady.depth?_of_mem_candidates (h : g.IsSteady r) {s : Symbol} {part : Word}
    (hpart : part ∈ g.candidates s) {n m : Nat}
    (hstep : depthStep n (r.operation s) = some m) : depth? n (part.map r.operation) = some m := by
  rcases eq_or_exists_of_mem_candidates hpart with rfl | ⟨p, hp, rfl⟩
  · rw [List.map_singleton, depth?_singleton, hstep]
  · -- The symbol does nothing to the depth, and neither does its replacement.
    have hrules : g.productions s ≠ [] := List.ne_nil_of_mem hp
    rw [depthStep_of_isNeutral (h.isNeutral s hrules), Option.some.injEq] at hstep
    rw [(h.isDrawable s p hp).balanced.depth?, hstep]

/-- **One round keeps a word drawable,** whatever is chosen. -/
theorem IsSteady.isDrawable_substituteWord (h : g.IsSteady r) (hw : g.IsDrawable r w)
    (rng : Generator) : g.IsDrawable r (substituteWord g w rng).1 := by
  obtain ⟨parts, hparts, hcandidates⟩ := exists_parts g w rng
  rw [hparts]
  constructor
  · -- Each symbol comes from one that was bound, and steady rules bring none that is not.
    intro s' hs'
    obtain ⟨s, hs, part, hcandidate, hmem⟩ := exists_of_mem_flatten hcandidates hs'
    exact h.isBound_of_mem_candidates (hw.isBound s hs) hcandidate s' hmem
  · -- The word leads from depth zero back to it, hence so does what takes its place.
    rw [balanced_iff_depth?, List.map_flatten]
    refine depth?_flatten ?_ (balanced_iff_depth?.1 hw.balanced)
    rw [List.forall₂_map_left_iff, List.forall₂_map_right_iff]
    exact hcandidates.imp fun s part hcandidate n m => h.depth?_of_mem_candidates hcandidate

/-- **All levels are drawable.** -/
theorem IsSteady.isDrawable_level (h : g.IsSteady r) (hw : g.IsDrawable r w) (rng : Generator)
    (k : Nat) : g.IsDrawable r (level g (w, rng) k).1 := by
  induction k with
  | zero => exact hw
  | succ k ih =>
    rw [level_succ']
    exact h.isDrawable_substituteWord ih _

/-- A steady grammar expands every drawable word to a drawable word. -/
theorem IsSteady.exists_expand (h : g.IsSteady r) (hw : g.IsDrawable r w) (seed : UInt64)
    (generations : UInt32) :
    ∃ w', g.expand seed generations w = .ok w' ∧ g.IsDrawable r w' := by
  refine ⟨_, expand_of_bound fun k _ => ?_, h.isDrawable_level hw (.ofSeed seed) _⟩
  exact unbound?_eq_none_iff.2 (h.isDrawable_level hw (.ofSeed seed) k).isBound

/-- A drawable word has a trace. -/
theorem IsDrawable.exists_trace (h : g.IsDrawable r w) (settings : Settings) :
    ∃ t, trace settings r w = .ok t := h.balanced.exists_walk settings

end LSystem.Grammar
