import LSystem.Grammar.Expansion
import LSystem.Proofs.Outcome
import Mathlib.Data.List.Forall2
import Mathlib.Data.Nat.Find
import Mathlib.Logic.Function.Iterate

/-!
# The levels of an expansion

An expansion can fail, but only because of unbound symbols; what it comes to otherwise does not
depend on looking for them. So the two are taken apart. `substituteWord` replaces all symbols of a
word and never fails, an unbound symbol staying as it is, and `level` does so any number of times.
A round succeeds if its word has no unbound symbols, and then gives the next level (`run_round`).
Hence an expansion gives the last level (`expand_of_bound`), unless there is a first one with an
unbound symbol, where it fails (`expand_of_unbound`). Levels that are not come to do not matter
(`expand_congr`).

Which of its replacements a symbol gets is up to the generator. Most that is said of levels holds
for any choice, and only needs that the choice is one of the `candidates` of the symbol
(`exists_parts`).
-/

namespace LSystem

open Chance

/-- What can take the place of a symbol in a round. -/
def Grammar.candidates (g : Grammar) (s : Symbol) : List Word :=
  if g.productions s = [] then [[s]] else (g.productions s).map (·.replacement)

theorem Grammar.eq_or_exists_of_mem_candidates {g : Grammar} {s : Symbol} {part : Word}
    (h : part ∈ g.candidates s) : part = [s] ∨ ∃ p ∈ g.productions s, p.replacement = part := by
  rw [candidates] at h
  split at h
  · exact .inl (List.mem_singleton.1 h)
  · exact .inr (List.mem_map.1 h)

namespace Expansion

variable {g : Grammar} {generation : Nat} {rng : Generator}

/-! ### Substitution -/

/-- What takes the place of a symbol, whether it is bound or not. -/
def substitute (g : Grammar) (s : Symbol) (rng : Generator) : Word × Generator :=
  match g.ruleSet? s with
  | some r => ((r.choose rng).1.replacement, (r.choose rng).2)
  | none => ([s], rng)

/-- What takes the place of a word, its symbols being replaced from left to right. -/
def substituteWord (g : Grammar) : Word → Generator → Word × Generator
  | [], rng => ([], rng)
  | s :: w, rng =>
    let part := substitute g s rng
    let rest := substituteWord g w part.2
    (part.1 ++ rest.1, rest.2)

/-- The word and the generator after a round. -/
def nextLevel (g : Grammar) (p : Word × Generator) : Word × Generator := substituteWord g p.1 p.2

/-- **The word and the generator after `k` rounds.** -/
def level (g : Grammar) (p : Word × Generator) (k : Nat) : Word × Generator := (nextLevel g)^[k] p

@[simp] theorem level_zero (p : Word × Generator) : level g p 0 = p := rfl

/-- The first round can be taken off. -/
theorem level_succ (p : Word × Generator) (k : Nat) :
    level g p (k + 1) = level g (nextLevel g p) k := rfl

/-- The last round can be taken off. -/
theorem level_succ' (p : Word × Generator) (k : Nat) :
    level g p (k + 1) = nextLevel g (level g p k) := Function.iterate_succ_apply' (nextLevel g) k p

/-- What is chosen is a candidate. -/
theorem substitute_mem_candidates (g : Grammar) (s : Symbol) (rng : Generator) :
    (substitute g s rng).1 ∈ g.candidates s := by
  rw [substitute, Grammar.candidates, Grammar.productions]
  cases g.ruleSet? s with
  | none => simp
  | some r =>
    rw [if_neg r.toList_productions_ne_nil]
    exact List.mem_map_of_mem (Array.mem_toList_iff.2 (r.choose_mem rng))

/-- **What takes the place of a word** consists of one candidate for each symbol. -/
theorem exists_parts (g : Grammar) (w : Word) (rng : Generator) :
    ∃ parts, (substituteWord g w rng).1 = parts.flatten ∧
      List.Forall₂ (fun s part => part ∈ g.candidates s) w parts := by
  induction w generalizing rng with
  | nil => exact ⟨[], rfl, .nil⟩
  | cons s w ih =>
    obtain ⟨parts, hrest, hparts⟩ := ih (substitute g s rng).2
    refine ⟨(substitute g s rng).1 :: parts, ?_, .cons (substitute_mem_candidates g s rng) hparts⟩
    rw [List.flatten_cons, ← hrest]
    rfl

/-- A concatenation is replaced part by part. -/
theorem substituteWord_append (v w : Word) (rng : Generator) :
    substituteWord g (v ++ w) rng =
      let front := substituteWord g v rng
      let back := substituteWord g w front.2
      (front.1 ++ back.1, back.2) := by
  induction v generalizing rng with
  | nil => rfl
  | cons s v ih => simp only [List.cons_append, substituteWord, ih, List.append_assoc]

/-! ### Rounds -/

/-- The first unbound symbol of a word. -/
def unbound? (g : Grammar) (w : Word) : Option Symbol := w.find? fun s => !g.isBound s

theorem unbound?_eq_none_iff {w : Word} : unbound? g w = none ↔ ∀ s ∈ w, g.isBound s = true := by
  rw [unbound?, List.find?_eq_none]
  simp

private theorem isBound_of_ruleSet? {s : Symbol} {r : RuleSet} (h : g.ruleSet? s = some r) :
    g.isBound s = true := by
  rw [Grammar.isBound, h]
  rfl

/-- A bound symbol is replaced. -/
private theorem run_replace_of_isBound {s : Symbol} (h : g.isBound s = true) :
    (replace g generation s).run rng = .ok (substitute g s rng) := by
  rw [replace, substitute]
  cases hrules : g.ruleSet? s with
  | some r => rfl
  | none =>
    rw [if_pos h]
    rfl

/-- An unbound symbol is an error. -/
private theorem run_replace_of_not_isBound {s : Symbol} (h : ¬ g.isBound s = true) :
    (replace g generation s).run rng = .error (unboundError g generation s) := by
  rw [replace]
  cases hrules : g.ruleSet? s with
  | some r => exact absurd (isBound_of_ruleSet? hrules) h
  | none =>
    rw [if_neg h]
    rfl

private theorem run_round_cons (s : Symbol) (w : Word) :
    (round g generation (s :: w)).run rng =
      ((replace g generation s).run rng).bind fun part =>
        ((round g generation w).run part.2).map fun rest => (part.1 ++ rest.1, rest.2) := by
  rw [round, round, List.mapM_cons]
  simp only [bind_assoc, pure_bind, StateT.run_bind, StateT.run_pure, List.flatten_cons]
  cases (replace g generation s).run rng with
  | error e => rfl
  | ok part =>
    -- Both sides now run the same computation first.
    change ((w.mapM (replace g generation)).run part.2).bind _ =
      (((w.mapM (replace g generation)).run part.2).bind _).map _
    cases (w.mapM (replace g generation)).run part.2 <;> rfl

/-- **A round** gives the next level if nothing is unbound, and otherwise fails at the first
unbound symbol. -/
theorem run_round (g : Grammar) (generation : Nat) (w : Word) (rng : Generator) :
    (round g generation w).run rng =
      match unbound? g w with
      | some s => .error (unboundError g generation s)
      | none => .ok (substituteWord g w rng) := by
  induction w generalizing rng with
  | nil => rfl
  | cons s w ih =>
    rw [run_round_cons, unbound?]
    by_cases hs : g.isBound s = true
    · -- The first unbound symbol is that of the rest.
      rw [run_replace_of_isBound hs, List.find?_cons_of_neg (by simpa using hs)]
      change ((round g generation w).run (substitute g s rng).2).map _ = _
      rw [ih]
      cases hrest : unbound? g w with
      | some s' =>
        rw [unbound?] at hrest
        rw [hrest]
        rfl
      | none =>
        rw [unbound?] at hrest
        rw [hrest]
        rfl
    · -- The round ends here, and nothing behind is looked at.
      rw [run_replace_of_not_isBound hs, List.find?_cons_of_pos (by simpa using hs)]
      rfl

/-- **Rounds** give the level that they lead to, if nothing is unbound on the way. -/
theorem run_rounds_of_bound (generation : Nat) {n : Nat} {w : Word}
    (h : ∀ k < n, unbound? g (level g (w, rng) k).1 = none) :
    (rounds g n generation w).run rng = .ok (level g (w, rng) n) := by
  induction n generalizing generation w rng with
  | zero => rfl
  | succ n ih =>
    -- The other rounds start from level one, whose levels are those of the word but for the first.
    have hfirst : (round g (generation + 1) w).run rng = .ok (nextLevel g (w, rng)) := by
      have hw : unbound? g w = none := h 0 (Nat.succ_pos n)
      rw [run_round, hw]
      rfl
    have hrest := ih (generation + 1) fun k hk => h (k + 1) (Nat.succ_lt_succ hk)
    rw [rounds, level_succ]
    change ((round g (generation + 1) w).run rng).bind _ = _
    rw [hfirst]
    exact hrest

/-- **Rounds fail** at the first level with an unbound symbol. -/
theorem run_rounds_of_unbound (generation : Nat) {n k : Nat} {w : Word} {s : Symbol} (hk : k < n)
    (hbound : ∀ j < k, unbound? g (level g (w, rng) j).1 = none)
    (hs : unbound? g (level g (w, rng) k).1 = some s) :
    (rounds g n generation w).run rng = .error (unboundError g (generation + k + 1) s) := by
  induction n generalizing generation k w rng with
  | zero => cases hk
  | succ n ih =>
    rw [rounds]
    change ((round g (generation + 1) w).run rng).bind _ = _
    cases k with
    | zero =>
      -- The first round meets the symbol.
      have hw : unbound? g w = some s := hs
      rw [run_round, hw]
      rfl
    | succ k =>
      have hw : unbound? g w = none := hbound 0 (Nat.succ_pos k)
      have hrest := ih (generation + 1) (Nat.lt_of_succ_lt_succ hk)
        (fun j hj => hbound (j + 1) (Nat.succ_lt_succ hj)) hs
      rw [Nat.add_right_comm generation 1 k] at hrest
      rw [run_round, hw]
      exact hrest

/-- **An expansion** succeeds if nothing is unbound on any level. -/
theorem expand_of_bound {seed : UInt64} {generations : UInt32} {w : Word}
    (h : ∀ k ≤ generations.toNat, unbound? g (level g (w, .ofSeed seed) k).1 = none) :
    g.expand seed generations w = .ok (level g (w, .ofSeed seed) generations.toNat).1 := by
  -- The rounds look at all levels but the last, and the check looks at that.
  have hrounds := run_rounds_of_bound 0 fun k hk => h k (Nat.le_of_lt hk)
  have hlast := h _ (Nat.le_refl generations.toNat)
  have hcheck :
      check g generations.toNat (level g (w, .ofSeed seed) generations.toNat).1 = .ok () := by
    rw [unbound?] at hlast
    rw [check, hlast]
  rw [Grammar.expand]
  exact bind_eq_ok_iff.2 ⟨_, hrounds, bind_eq_ok_iff.2 ⟨(), hcheck, rfl⟩⟩

/-- **An expansion fails** at the first level with an unbound symbol. What the last round leaves is
looked at without a round of its own, and counted to the last one. -/
theorem expand_of_unbound {seed : UInt64} {generations : UInt32} {w : Word} {k : Nat} {s : Symbol}
    (hk : k ≤ generations.toNat)
    (hbound : ∀ j < k, unbound? g (level g (w, .ofSeed seed) j).1 = none)
    (hs : unbound? g (level g (w, .ofSeed seed) k).1 = some s) :
    g.expand seed generations w =
      .error (unboundError g (min (k + 1) generations.toNat) s) := by
  rw [Grammar.expand]
  change ((rounds g generations.toNat 0 w).run _).bind _ = _
  -- Before the last level a round finds the symbol, and on the last one the check after all rounds.
  rcases Nat.lt_or_eq_of_le hk with hlt | rfl
  · rw [run_rounds_of_unbound 0 hlt hbound hs, Nat.min_eq_left hlt, Nat.zero_add]
    rfl
  · -- All rounds have been made, so it is the check that fails.
    have hcheck : check g generations.toNat (level g (w, .ofSeed seed) generations.toNat).1 =
        .error (unboundError g generations.toNat s) := by
      rw [unbound?] at hs
      rw [check, hs]
    rw [run_rounds_of_bound 0 hbound, Nat.min_eq_right (Nat.le_succ _)]
    change (check g generations.toNat (level g (w, .ofSeed seed) generations.toNat).1).bind _ = _
    rw [hcheck]
    rfl

/-- Either all levels of an expansion are free of unbound symbols, or there is a first one that is
not. -/
theorem bound_or_exists_unbound (g : Grammar) (p : Word × Generator) (n : Nat) :
    (∀ k ≤ n, unbound? g (level g p k).1 = none) ∨
      ∃ k ≤ n, ∃ s, (∀ j < k, unbound? g (level g p j).1 = none) ∧
        unbound? g (level g p k).1 = some s := by
  classical
  by_cases h : ∃ k, k ≤ n ∧ unbound? g (level g p k).1 ≠ none
  · -- The first level with an unbound symbol, so that all before it are bound.
    obtain ⟨hk, hne⟩ := Nat.find_spec h
    obtain ⟨s, hs⟩ := Option.ne_none_iff_exists'.1 hne
    refine .inr ⟨Nat.find h, hk, s, fun j hj => ?_, hs⟩
    by_contra hsome
    exact Nat.find_min h hj ⟨Nat.le_trans (Nat.le_of_lt hj) hk, hsome⟩
  · refine .inl fun k hk => ?_
    by_contra hsome
    exact h ⟨k, hk, hsome⟩

/-- **Expansions of one outcome.** If the levels of two expansions are the same up to the first one
with an unbound symbol, the expansions give the same word or fail with the same error. -/
theorem expand_congr {seed seed' : UInt64} {generations : UInt32} {w w' : Word}
    (h : ∀ k ≤ generations.toNat,
      (∀ j < k, unbound? g (level g (w, .ofSeed seed) j).1 = none) →
        (level g (w, .ofSeed seed) k).1 = (level g (w', .ofSeed seed') k).1) :
    g.expand seed generations w = g.expand seed' generations w' := by
  -- The levels agree for as long as they are bound, and one level after that.
  rcases bound_or_exists_unbound g (w, .ofSeed seed) generations.toNat with
    hbound | ⟨k, hk, s, hbefore, hs⟩
  · have hsame : ∀ k ≤ generations.toNat,
        (level g (w, .ofSeed seed) k).1 = (level g (w', .ofSeed seed') k).1 :=
      fun k hk => h k hk fun j hj => hbound j (Nat.le_trans (Nat.le_of_lt hj) hk)
    have hbound' : ∀ k ≤ generations.toNat,
        unbound? g (level g (w', .ofSeed seed') k).1 = none :=
      fun k hk => hsame k hk ▸ hbound k hk
    rw [expand_of_bound hbound, expand_of_bound hbound', hsame _ (Nat.le_refl _)]
  · -- The first unbound symbol is on the same level and is the same one.
    have hsame : ∀ j ≤ k,
        (level g (w, .ofSeed seed) j).1 = (level g (w', .ofSeed seed') j).1 :=
      fun j hj => h j (Nat.le_trans hj hk) fun i hi => hbefore i (Nat.lt_of_lt_of_le hi hj)
    have hbefore' : ∀ j < k, unbound? g (level g (w', .ofSeed seed') j).1 = none :=
      fun j hj => hsame j (Nat.le_of_lt hj) ▸ hbefore j hj
    have hs' : unbound? g (level g (w', .ofSeed seed') k).1 = some s :=
      hsame k (Nat.le_refl k) ▸ hs
    rw [expand_of_unbound hk hbefore hs, expand_of_unbound hk hbefore' hs']

/-- **An expansion succeeds** exactly if nothing is unbound on any level, and gives the last one. -/
theorem expand_eq_ok_iff {seed : UInt64} {generations : UInt32} {w c : Word} :
    g.expand seed generations w = .ok c ↔
      (∀ k ≤ generations.toNat, unbound? g (level g (w, .ofSeed seed) k).1 = none) ∧
        (level g (w, .ofSeed seed) generations.toNat).1 = c := by
  rcases bound_or_exists_unbound g (w, .ofSeed seed) generations.toNat with
    hbound | ⟨k, hk, s, hbefore, hs⟩
  · rw [expand_of_bound hbound, Except.ok.injEq]
    exact ⟨fun hc => ⟨hbound, hc⟩, fun hc => hc.2⟩
  · rw [expand_of_unbound hk hbefore hs]
    refine ⟨nofun, fun hc => ?_⟩
    rw [hc.1 k hk] at hs
    cases hs

/-- An expansion followed level by level, as far as it goes. -/
theorem expand_eq_ok_of_all {seed : UInt64} {generations : UInt32} {w c : Word}
    (hbound : (List.range (generations.toNat + 1)).all
      (fun k => unbound? g (level g (w, .ofSeed seed) k).1 == none) = true)
    (hlast : (level g (w, .ofSeed seed) generations.toNat).1 = c) :
    g.expand seed generations w = .ok c := by
  refine expand_eq_ok_iff.2 ⟨fun k hk => ?_, hlast⟩
  exact beq_iff_eq.1 (List.all_eq_true.1 hbound k (List.mem_range.2 (Nat.lt_succ_of_le hk)))

/-- There is an expansion exactly if nothing is unbound on any level. -/
theorem exists_expand_iff {seed : UInt64} {generations : UInt32} {w : Word} :
    (∃ c, g.expand seed generations w = .ok c) ↔
      ∀ k ≤ generations.toNat, unbound? g (level g (w, .ofSeed seed) k).1 = none := by
  constructor
  · rintro ⟨c, hc⟩
    exact (expand_eq_ok_iff.1 hc).1
  · exact fun hbound => ⟨_, expand_of_bound hbound⟩

end Expansion

end LSystem
