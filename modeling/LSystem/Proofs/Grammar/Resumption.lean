import LSystem.Proofs.Grammar.Insertion
import Mathlib.Order.Monotone.Basic

/-!
# Expansions that are resumed

A word that an expansion comes to can be expanded again. The levels of the second expansion go on
where those of the first one end, if nothing is drawn on the way: what takes the place of a symbol
then depends on the symbol only, and not on what the first expansion has left of its random numbers
(`level_level_of_single`). So rounds can be made in two expansions instead of one.

An error is the same one, up to the round that is counted. The second expansion begins to count
anew, and what it finds in round `k` is found in round `m + k` by an expansion that makes the first
`m` rounds as well (`Error.later`). This is also true of the last level, which has no round of its
own (`expand_resume`).

If no rounds are left to make, the second expansion only looks for unbound symbols. The first one
has done so before it gave the word out, so nothing is found, whether there is a choice or not.
-/

namespace LSystem

open Chance Expansion

/-- **An error of later rounds:** the rounds before them count as well. -/
def Error.later (rounds : Nat) : Error → Error
  | .unbound symbol generation => .unbound symbol (rounds + generation)
  | e => e

namespace Expansion

variable {g : Grammar} {w c : Word} {seed seed' : UInt64} {rng : Generator}

/-! ### What all levels have in common -/

/-- What is true of the symbols of a word, and of the symbols of a replacement if it is true of the
symbol that is replaced, is true of all symbols of all levels. -/
theorem forall_mem_level {P : Symbol → Prop} (hw : ∀ s ∈ w, P s)
    (hclosed : ∀ s, P s → ∀ p ∈ g.productions s, ∀ s' ∈ p.replacement, P s') (rng : Generator)
    (k : Nat) : ∀ s ∈ (level g (w, rng) k).1, P s := by
  induction k with
  | zero => exact hw
  | succ k ih =>
    rw [level_succ', nextLevel]
    obtain ⟨parts, hparts, hcandidates⟩ :=
      exists_parts g (level g (w, rng) k).1 (level g (w, rng) k).2
    rw [hparts]
    intro s' hs'
    obtain ⟨s, hs, part, hcandidate, hmem⟩ := exists_of_mem_flatten hcandidates hs'
    -- A symbol of the next level stood there before or comes from a rule.
    rcases Grammar.eq_or_exists_of_mem_candidates hcandidate with rfl | ⟨p, hp, rfl⟩
    · rw [List.mem_singleton.1 hmem]
      exact ih s hs
    · exact hclosed s (ih s hs) p hp s' hmem

/-- What takes the place of a word is not shorter, if no part is empty. -/
theorem length_le_length_flatten {parts : List Word}
    (h : List.Forall₂ (fun (_ : Symbol) part => part ≠ []) w parts) :
    w.length ≤ parts.flatten.length := by
  induction h with
  | nil => exact Nat.le_refl _
  | @cons a part w parts hpart _ ih =>
    have hpos : 0 < part.length := List.length_pos_iff.2 hpart
    rw [List.flatten_cons, List.length_append, List.length_cons]
    omega

/-- **No level is shorter than one before it,** if no replacement is empty. -/
theorem monotone_length_level (hreplacement : ∀ s, ∀ p ∈ g.productions s, p.replacement ≠ [])
    (w : Word) (rng : Generator) : Monotone fun k => (level g (w, rng) k).1.length := by
  apply monotone_nat_of_le_succ
  intro k
  obtain ⟨parts, hparts, hcandidates⟩ :=
    exists_parts g (level g (w, rng) k).1 (level g (w, rng) k).2
  rw [level_succ', nextLevel, hparts]
  refine length_le_length_flatten (hcandidates.imp fun s part hpart => ?_)
  rcases Grammar.eq_or_exists_of_mem_candidates hpart with rfl | ⟨p, hp, rfl⟩
  · exact List.cons_ne_nil s []
  · exact hreplacement s p hp

/-- No level is empty if neither the word nor any replacement is. -/
theorem level_ne_nil (hw : w ≠ []) (hreplacement : ∀ s, ∀ p ∈ g.productions s, p.replacement ≠ [])
    (rng : Generator) (k : Nat) : (level g (w, rng) k).1 ≠ [] := by
  have hlength := monotone_length_level hreplacement w rng (Nat.zero_le k)
  exact List.length_pos_iff.1 (Nat.lt_of_lt_of_le (List.length_pos_iff.2 hw) hlength)

/-! ### Levels of levels -/

theorem level_add (p : Word × Generator) (m k : Nat) :
    level g p (m + k) = level g (level g p m) k := by
  rw [level, Nat.add_comm, Function.iterate_add_apply]
  rfl

/-- Without a choice, a level does not depend on the generator and leaves it as it is. -/
private theorem exists_level_of_single (hsingle : ∀ s, (g.productions s).length < 2) (w : Word)
    (k : Nat) :
    ∃ w', ∀ rng, level g (w, rng) k = (w', rng) := by
  induction k with
  | zero => exact ⟨w, fun rng => rfl⟩
  | succ k ih =>
    obtain ⟨w₁, hw₁⟩ := ih
    obtain ⟨w', hw'⟩ := exists_substituteWord_of_single fun s (_ : s ∈ w₁) => hsingle s
    exact ⟨w', fun rng => by rw [level_succ', hw₁, nextLevel, hw']⟩

/-- **Levels go on** from one of them with any generator, if there is no choice. -/
theorem level_level_of_single (hsingle : ∀ s, (g.productions s).length < 2) (w : Word)
    (rng rng' : Generator) (m k : Nat) :
    (level g ((level g (w, rng) m).1, rng') k).1 = (level g (w, rng) (m + k)).1 := by
  obtain ⟨c, hc⟩ := exists_level_of_single hsingle w m
  obtain ⟨w', hw'⟩ := exists_level_of_single hsingle c k
  rw [level_add, hc, hw', hw']

/-! ### Expansions -/

/-- Without a choice, no expansion depends on the seed. -/
theorem expand_eq_of_single (hsingle : ∀ s, (g.productions s).length < 2) (seed seed' : UInt64)
    (generations : UInt32) (w : Word) :
    g.expand seed generations w = g.expand seed' generations w :=
  expand_eq_expand_of_isPredetermined (fun _ _ _ _ s _ => hsingle s) seed seed'

/-- What has been expanded has no unbound symbols. -/
private theorem expand_zero_of_expand {m : UInt32} (hc : g.expand seed m w = .ok c) :
    g.expand seed' 0 c = .ok c := by
  obtain ⟨hbound, rfl⟩ := expand_eq_ok_iff.1 hc
  have hlast := hbound m.toNat (Nat.le_refl _)
  rw [expand_eq_ok_iff, UInt32.toNat_zero, level_zero]
  refine ⟨fun k hk => ?_, rfl⟩
  rw [Nat.le_zero.1 hk, level_zero]
  exact hlast

/-- Rounds can be made in two expansions, if there is no choice. -/
theorem expand_add_of_single (hsingle : ∀ s, (g.productions s).length < 2) {m n : UInt32}
    (hadd : m.toNat + n.toNat < UInt32.size) (hc : g.expand seed m w = .ok c) :
    g.expand seed (m + n) w = (g.expand seed' n c).mapError (.later m.toNat) := by
  obtain ⟨hbound, rfl⟩ := expand_eq_ok_iff.1 hc
  have htotal : (m + n).toNat = m.toNat + n.toNat := by
    rw [UInt32.toNat_add, Nat.mod_eq_of_lt hadd]
  have hlevel (k : Nat) := level_level_of_single hsingle w (.ofSeed seed) (.ofSeed seed') m.toNat k
  -- Up to level `m` nothing is unbound, and from there on the levels are those that follow.
  have hbound' {n : Nat} (h : ∀ k < n, unbound? g
      (level g ((level g (w, .ofSeed seed) m.toNat).1, .ofSeed seed') k).1 = none) :
      ∀ k < m.toNat + n, unbound? g (level g (w, .ofSeed seed) k).1 = none := by
    intro k hk
    rcases Nat.le_total k m.toNat with hle | hge
    · exact hbound k hle
    · have hnone := h (k - m.toNat) (by omega)
      rwa [hlevel, Nat.add_sub_cancel' hge] at hnone
  rcases bound_or_exists_unbound g
    ((level g (w, .ofSeed seed) m.toNat).1, .ofSeed seed') n.toNat with
    hall | ⟨k, hk, s, hbefore, hs⟩
  · have hall' := hbound' fun k hk => hall k (Nat.lt_succ_iff.1 hk)
    rw [expand_of_bound hall, expand_of_bound fun k hk => hall' k (by omega), htotal, hlevel]
    rfl
  · -- The symbol is on level `k` of what follows, which is level `m + k` of the whole.
    have hs' := hs
    rw [hlevel] at hs'
    have hcount : min (m.toNat + k + 1) (m + n).toNat = m.toNat + min (k + 1) n.toNat := by
      rw [htotal]
      omega
    rw [expand_of_unbound hk hbefore hs, expand_of_unbound (by omega) (hbound' hbefore) hs', hcount]
    rfl

/-- **Rounds can be made in two expansions,** if none are left or if there is no choice. -/
theorem expand_resume {m n : UInt32}
    (h : n = 0 ∨ (∀ s, (g.productions s).length < 2) ∧ m.toNat + n.toNat < UInt32.size)
    (hc : g.expand seed m w = .ok c) (seed' : UInt64) :
    g.expand seed (m + n) w = (g.expand seed' n c).mapError (.later m.toNat) := by
  rcases h with rfl | ⟨hsingle, hadd⟩
  · rw [expand_zero_of_expand hc, UInt32.add_zero, hc]
    rfl
  · exact expand_add_of_single hsingle hadd hc

end Expansion

end LSystem
