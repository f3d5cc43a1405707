import LSystem.Proofs.Grammar.Loading

/-!
# A grammar says of symbols what its description says of tokens

Loading numbers tokens as they come, binds them, and sorts the rules by their symbols. `Faithful`
says what must be left of a description after that, with nothing but look-ups on either side: a
table, a start word, productions and meanings on the side of the grammar, lists of tokens, rules and
bindings on the side of the description.

The numbers are fixed by the first occurrences among the tokens of the description, that is, in the
conventional symbols, the keys of the bindings in their order, the start word, and then rule by rule
the symbol and its replacement. The loader enrolls token after token behind those that it has, and
the texts that are enrolled in an empty list are the first occurrences (`enroll_nil_eq_eraseDups`).

Keys are in the order of strings, by code points; in UTF-8 this is also the order of the bytes.

* `faithful_of_ofDescription`: loading is faithful.
-/

namespace LSystem

open Turtle

namespace Grammar

/-- **A grammar that says of symbols what a description says of tokens.** -/
structure Faithful (g : Grammar) (d : Description) : Prop where
  /-- The tokens are numbered in the order of their first occurrences. -/
  names_eq : g.symbols.toList = d.tokens.eraseDups
  /-- The start word is spelled by the tokens that the description starts from. -/
  start_eq : g.start.map g.symbols.name? = d.start.toList.map some
  /-- The productions of a token are its rules, in their order and with their weights. -/
  productions_eq : ∀ token s, g.symbols.symbol? token = some s →
    (g.productions s).map (fun p => (p.replacement.map g.symbols.name?, p.weight)) =
      (d.rules.filter fun rule => rule.symbol = token).map fun rule =>
        (rule.replacement.toList.map some, rule.weight)
  /-- A token means what it is bound to, and otherwise what it conventionally means. -/
  meaning?_eq : ∀ token s, g.symbols.symbol? token = some s →
    g.meaning? s = (d.bindings.get? token).or (Operation.standard.lookup token)
  /-- A token is terminal if it means something and has no rule. -/
  isTerminal_iff : ∀ token s, g.symbols.symbol? token = some s →
    (g.isTerminal s = true ↔
      ((d.bindings.get? token).or (Operation.standard.lookup token)).isSome ∧
        ∀ rule ∈ d.rules, rule.symbol ≠ token)
  /-- Numbers that stand for no token stand for nothing. -/
  beyond : ∀ s : Symbol, g.symbols.size ≤ s.toNat →
    g.productions s = [] ∧ g.meaning? s = none ∧ g.isTerminal s = false

/-- A symbol is terminal if it has a meaning and no productions. -/
theorem isTerminal_eq_true_iff {g : Grammar} {s : Symbol} :
    g.isTerminal s = true ↔ (g.meaning? s).isSome ∧ g.productions s = [] := by
  unfold isTerminal
  rw [Bool.and_eq_true, Option.isNone_iff_eq_none, ruleSet?_eq_none_iff, and_comm]

namespace Loaded

variable {d : Description} {g : Grammar} {s : Symbol} {token : String}

/-- A token has no productions if it has no rules. -/
theorem productions_eq_nil_iff (h : Loaded d g) (hname : g.symbols.name? s = some token) :
    g.productions s = [] ↔ ∀ rule ∈ d.rules, rule.symbol ≠ token := by
  have hlength := (h.forall₂_productions hname).length_eq
  rw [← List.length_eq_zero_iff, ← hlength, List.length_eq_zero_iff, List.eq_nil_iff_forall_not_mem]
  constructor
  · intro hnot rule hrule heq
    exact hnot rule (Description.mem_rulesFor.2 ⟨hrule, heq⟩)
  · intro hne rule hrule
    obtain ⟨hmem, heq⟩ := Description.mem_rulesFor.1 hrule
    exact hne rule hmem heq

end Loaded

/-- **Loading is faithful.** -/
theorem faithful_of_ofDescription {d : Description} {g : Grammar} (h : ofDescription d = .ok g) :
    Faithful g d := by
  have hloaded := loaded_of_ofDescription h
  refine
    { names_eq := ?_
      start_eq := hloaded.start_spells
      productions_eq := ?_
      meaning?_eq := ?_
      isTerminal_iff := ?_
      beyond := ?_ }
  · rw [hloaded.enrolled.toList_eq, SymbolTable.toList_empty]
    exact SymbolTable.enroll_nil_eq_eraseDups d.tokens
  · -- The rules of a symbol are those of its token, in the order of the description.
    intro token s hs
    have hproductions := hloaded.forall₂_productions (SymbolTable.symbol?_eq_some_iff.1 hs)
    apply Eq.symm
    rw [map_eq_map_iff_forall₂]
    refine hproductions.imp fun rule p hp => ?_
    rw [hp.1, hp.2]
  · intro token s hs
    exact hloaded.meaning?_of_name? (SymbolTable.symbol?_eq_some_iff.1 hs)
  · intro token s hs
    have hname := SymbolTable.symbol?_eq_some_iff.1 hs
    rw [isTerminal_eq_true_iff, hloaded.productions_eq_nil_iff hname,
      hloaded.meaning?_of_name? hname]
    exact Iff.rfl
  · -- A number beyond the table has no name, and rules and meanings are kept by name.
    intro s hs
    have hname := SymbolTable.name?_eq_none hs
    have hproductions := hloaded.productions_of_name?_eq_none hname
    have hmeaning : g.meaning? s = none := by
      rw [hloaded.meaning?_eq, hname, Option.bind_none]
    refine ⟨hproductions, hmeaning, ?_⟩
    rw [Bool.eq_false_iff]
    intro hterminal
    have hsome := (isTerminal_eq_true_iff.1 hterminal).1
    rw [hmeaning] at hsome
    cases hsome

/-- A tree whose trunk is bound anew, with the rules for one symbol on both sides of another. -/
def orchard : Description where
  start := .tokens ["Tree", "F", "Tree"]
  rules :=
    [{ symbol := "Tree", replacement := .text "F[+B]", weight := 2 },
      { symbol := "B", replacement := .tokens ["Leaf", "F"] },
      { symbol := "Tree", replacement := .tokens ["B", "Tree"], weight := 3 }]
  bindings := .ofList [("Leaf", .ignore), ("F", .move), ("B", .forward)]

/-- The keys come in their order behind the conventional symbols, and what occurs again, be it in
another place or with another meaning, keeps its number. -/
theorem faithful_orchard :
    ∃ g, ofDescription orchard = .ok g ∧ Faithful g orchard ∧
      g.symbols.toList =
        ["F", "f", "+", "-", "&", "^", "\\", "/", "|", "\"", "[", "]", "B", "Leaf", "Tree"] := by
  obtain ⟨g, hg⟩ := exists_ofDescription_iff.2 (show IsLoadable orchard by decide +kernel)
  have hfaithful := faithful_of_ofDescription hg
  refine ⟨g, hg, hfaithful, ?_⟩
  rw [hfaithful.names_eq]
  decide +kernel

end Grammar

end LSystem
