import LSystem.Proofs.Grammar.Levels
import LSystem.Proofs.Pairs
import LSystem.Proofs.Turtle.Repertoire

/-!
# Grammars that differ in their numbers only

Which number a token gets depends on what has been numbered before it, so two grammars can say the
same and have other numbers. `Simulates` compares them through a relation between their symbols:
symbols that correspond have the same token, the same meaning, and replacements that correspond
symbol by symbol, in the same order. Weights have to agree only where there is a choice, since a
production that stands alone is taken without a look at its weight.

From here the argument goes along an expansion. Corresponding symbols are replaced with the same
draws by corresponding words (`alike_substitute`). The symbols of a word are replaced from left to
right with one generator, so the same holds of words, and by induction all levels correspond while
the generators stay equal (`alike_level`). Nothing in this looks at a number, or at the order in
which a table gives its entries out. Unbound symbols turn up in the same places and have the same
tokens, so the expansions either fail with the same error or give corresponding words
(`sameOutcome_expand`), and such words are the same to all who read them (`render_eq`, `trace_eq`).

The relation need not be a bijection, nor cover all symbols. It is enough that it holds between the
words that the expansions start from.
-/

namespace LSystem

open Chance Expansion

namespace Grammar

variable {g g' : Grammar} {R : Symbol → Symbol → Prop} {rng : Generator} {s s' : Symbol}
  {w w' : Word}

/-! ### Choices -/

/-- Productions that correspond in their order, with the same weights if there is a choice. -/
structure SameChoices (R : Symbol → Symbol → Prop) (ps ps' : List Production) : Prop where
  replacements : List.Forall₂ (fun p p' => List.Forall₂ R p.replacement p'.replacement) ps ps'
  weights : 2 ≤ ps.length → ps.map (·.weight) = ps'.map (·.weight)

private theorem SameChoices.sampler?_eq {r r' : RuleSet}
    (h : SameChoices R r.productions.toList r'.productions.toList) :
    r.sampler? = r'.sampler? := by
  have hsize : r.productions.size = r'.productions.size := h.replacements.length_eq
  -- A sampler is made of the weights, and only if there is a choice.
  rw [r.sampler?_eq, r'.sampler?_eq, samplerFor?, samplerFor?, hsize]
  split
  · rfl
  · next hchoice =>
    rw [← hsize] at hchoice
    rw [h.weights (Nat.le_of_not_lt hchoice)]

/-- **The same draw chooses corresponding productions.** -/
theorem SameChoices.choose {r r' : RuleSet}
    (h : SameChoices R r.productions.toList r'.productions.toList) (rng : Generator) :
    List.Forall₂ R (r.choose rng).1.replacement (r'.choose rng).1.replacement ∧
      (r.choose rng).2 = (r'.choose rng).2 := by
  have hfirst : List.Forall₂ R r.first.replacement r'.first.replacement := by
    have hpos : 0 < r.productions.toList.length := r.size_pos
    have hpos' : 0 < r'.productions.toList.length := r'.size_pos
    exact h.replacements.get hpos hpos'
  unfold RuleSet.choose
  rw [← h.sampler?_eq]
  cases r.sampler? with
  | none => exact ⟨hfirst, rfl⟩
  | some sampler =>
    -- One sampler takes one place from one generator, and the productions in it correspond.
    refine ⟨?_, rfl⟩
    have hplace := rel_getD h.replacements hfirst (sampler.sample rng).1
    simp only [Array.getElem?_toList, ← Array.getD_eq_getD_getElem?] at hplace
    exact hplace

/-! ### Grammars -/

/-- **Grammars that say the same** of symbols that correspond. -/
structure Simulates (g g' : Grammar) (R : Symbol → Symbol → Prop) : Prop where
  name?_eq : ∀ {s s'}, R s s' → g.symbols.name? s = g'.symbols.name? s'
  meaning?_eq : ∀ {s s'}, R s s' → g.meaning? s = g'.meaning? s'
  productions : ∀ {s s'}, R s s' → SameChoices R (g.productions s) (g'.productions s')

namespace Simulates

private theorem isBound_eq (h : g.Simulates g' R) (hs : R s s') : g.isBound s = g'.isBound s' := by
  have hnil : g.productions s = [] ↔ g'.productions s' = [] := by
    have hlength := (h.productions hs).replacements.length_eq
    rw [← List.length_eq_zero_iff, hlength, List.length_eq_zero_iff]
  have hrules : (g.ruleSet? s).isSome = (g'.ruleSet? s').isSome := by
    rw [Bool.eq_iff_iff, Option.isSome_iff_ne_none, Option.isSome_iff_ne_none]
    rw [ne_eq, ne_eq, ruleSet?_eq_none_iff, ruleSet?_eq_none_iff, hnil]
  unfold isBound
  rw [hrules, h.meaning?_eq hs]

/-- Unbound symbols turn up in the same places. -/
theorem rel_unbound? (h : g.Simulates g' R) (hw : List.Forall₂ R w w') :
    Option.Rel R (unbound? g w) (unbound? g' w') := by
  refine rel_find? (fun s s' hs => ?_) hw
  rw [h.isBound_eq hs]

private theorem unbound?_eq_none (h : g.Simulates g' R) (hw : List.Forall₂ R w w')
    (hnone : unbound? g w = none) : unbound? g' w' = none := by
  have hrel := h.rel_unbound? hw
  rw [hnone] at hrel
  cases hfound : unbound? g' w' with
  | none => rfl
  | some s' =>
    rw [hfound] at hrel
    cases hrel

private theorem exists_unbound?_eq_some (h : g.Simulates g' R) (hw : List.Forall₂ R w w')
    (hs : unbound? g w = some s) : ∃ s', unbound? g' w' = some s' ∧ R s s' := by
  have hrel := h.rel_unbound? hw
  rw [hs] at hrel
  -- Partners are unbound together, so the second word has its first one too.
  cases hfound : unbound? g' w' with
  | none =>
    rw [hfound] at hrel
    cases hrel
  | some s' =>
    rw [hfound] at hrel
    cases hrel with
    | some hpartner => exact ⟨s', rfl, hpartner⟩

private theorem unboundError_eq (h : g.Simulates g' R) (hs : R s s') (generation : Nat) :
    unboundError g generation s = unboundError g' generation s' := by
  unfold unboundError
  rw [h.name?_eq hs]

/-! ### Levels -/

/-- Corresponding words, and generators that will draw the same. -/
structure Alike (R : Symbol → Symbol → Prop) (p p' : Word × Generator) : Prop where
  word : List.Forall₂ R p.1 p'.1
  rng : p.2 = p'.2

theorem alike_substitute (h : g.Simulates g' R) (hs : R s s') (rng : Generator) :
    Alike R (substitute g s rng) (substitute g' s' rng) := by
  have hchoices := h.productions hs
  unfold Grammar.productions at hchoices
  unfold substitute
  -- As many productions correspond to each other, so either both symbols have some or none has.
  cases hrules : g.ruleSet? s with
  | none =>
    cases hrules' : g'.ruleSet? s' with
    | none => exact ⟨.cons hs .nil, rfl⟩
    | some r' =>
      rw [hrules, hrules'] at hchoices
      have hnil := List.forall₂_nil_left_iff.1 hchoices.replacements
      exact absurd hnil r'.toList_productions_ne_nil
  | some r =>
    cases hrules' : g'.ruleSet? s' with
    | none =>
      rw [hrules, hrules'] at hchoices
      have hnil := List.forall₂_nil_right_iff.1 hchoices.replacements
      exact absurd hnil r.toList_productions_ne_nil
    | some r' =>
      rw [hrules, hrules'] at hchoices
      obtain ⟨hword, hrng⟩ := hchoices.choose rng
      exact ⟨hword, hrng⟩

/-- The generator goes from symbol to symbol, so it stays the same along the words. -/
private theorem alike_substituteWord (h : g.Simulates g' R) (hw : List.Forall₂ R w w')
    (rng : Generator) :
    Alike R (substituteWord g w rng) (substituteWord g' w' rng) := by
  induction hw generalizing rng with
  | nil => exact ⟨.nil, rfl⟩
  | @cons s s' w w' hs _ ih =>
    have hpart := h.alike_substitute hs rng
    have hrest := ih (substitute g s rng).2
    rw [hpart.rng] at hrest
    simp only [substituteWord, hpart.rng]
    exact ⟨List.rel_append hpart.word hrest.word, hrest.rng⟩

/-- **Levels correspond,** and leave equal generators. -/
theorem alike_level (h : g.Simulates g' R) {p p' : Word × Generator} (hp : Alike R p p')
    (k : Nat) : Alike R (level g p k) (level g' p' k) := by
  induction k with
  | zero => exact hp
  | succ k ih =>
    rw [level_succ', level_succ']
    have hround := h.alike_substituteWord ih.word (level g p k).2
    rw [nextLevel, nextLevel, ← ih.rng]
    exact hround

/-! ### Expansions -/

/-- **Expansions have the same outcome:** corresponding words, or the same error. -/
theorem sameOutcome_expand (h : g.Simulates g' R) (hw : List.Forall₂ R w w') (seed : UInt64)
    (generations : UInt32) :
    SameOutcome (List.Forall₂ R) (g.expand seed generations w)
      (g'.expand seed generations w') := by
  have hstart : Alike R (w, .ofSeed seed) (w', .ofSeed seed) := ⟨hw, rfl⟩
  -- Both grammars draw the same numbers, so their levels go side by side.
  have hlevel (k : Nat) := h.alike_level hstart k
  have hnone {k : Nat} (hk : unbound? g (level g (w, .ofSeed seed) k).1 = none) :
      unbound? g' (level g' (w', .ofSeed seed) k).1 = none :=
    h.unbound?_eq_none (hlevel k).word hk
  rcases bound_or_exists_unbound g (w, .ofSeed seed) generations.toNat with
    hbound | ⟨k, hk, s, hbefore, hs⟩
  · rw [expand_of_bound hbound, expand_of_bound fun k hk => hnone (hbound k hk)]
    exact .ok (hlevel _).word
  · -- The first unbound symbol has a partner in its place, and there is none before it.
    obtain ⟨s', hs', hpartner⟩ := h.exists_unbound?_eq_some (hlevel k).word hs
    rw [expand_of_unbound hk hbefore hs,
      expand_of_unbound hk (fun j hj => hnone (hbefore j hj)) hs', h.unboundError_eq hpartner]
    exact .error _

/-- Corresponding words are written alike. -/
theorem render_eq (h : g.Simulates g' R) (hw : List.Forall₂ R w w') :
    Word.render g.symbols w = Word.render g'.symbols w' := by
  have htokens : w.map (Word.tokenOf g.symbols) = w'.map (Word.tokenOf g'.symbols) := by
    refine map_eq_map_iff_forall₂.2 (hw.imp fun s s' hs => ?_)
    rw [Word.tokenOf, Word.tokenOf, h.name?_eq hs]
  rw [Word.render, Word.render, htokens]

/-- A turtle goes the same way along corresponding words. -/
theorem trace_eq (h : g.Simulates g' R) (hw : List.Forall₂ R w w') (settings : Turtle.Settings) :
    Turtle.trace settings (Turtle.Repertoire.empty.setMeanings g) w =
      Turtle.trace settings (Turtle.Repertoire.empty.setMeanings g') w' := by
  have hops : w.map (Turtle.Repertoire.empty.setMeanings g).operation =
      w'.map (Turtle.Repertoire.empty.setMeanings g').operation := by
    refine map_eq_map_iff_forall₂.2 (hw.imp fun s s' hs => ?_)
    rw [Turtle.Repertoire.operation_setMeanings, Turtle.Repertoire.operation_setMeanings,
      h.meaning?_eq hs]
  rw [Turtle.trace, Turtle.trace, hops]

end Simulates

end Grammar

end LSystem
