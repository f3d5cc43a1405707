import LSystem.Proofs.Grammar.Renaming
import LSystem.Proofs.Ribbon.Evaluation

/-!
# Descriptions of the same ribbon

The same ribbon can be described in many ways. Rules for different symbols can be put in any order,
a symbol can be bound to what it means anyway, a list of short tokens can be written as a text, and
nobody looks at a weight that stands alone. The tokens may then appear in another order and get
other numbers, but nothing that a ribbon gives shows a number.

`SameRibbon` says what two such descriptions have in common, token by token and without numbers. A
grammar says of a symbol what its description says of the token (`Grammar.Loaded`), so the grammars
of two such descriptions say the same of symbols with the same token (`simulates_of_sameSystem`).
The rest is the same for all grammars that simulate each other: expansions have the same outcome,
and corresponding words give the same text, the same trace and hence the same curves
(`results_eq_of_sameRibbon`).
-/

namespace LSystem

/-! ### Descriptions that say the same -/

/-- Rules with the same replacements in the same order, and with the same weights if there is a
choice. -/
structure Rule.SameChoices (rules rules' : List Rule) : Prop where
  replacements : rules.map (·.replacement.toList) = rules'.map (·.replacement.toList)
  weights : 2 ≤ rules.length → rules.map (·.weight) = rules'.map (·.weight)

instance (rules rules' : List Rule) : Decidable (Rule.SameChoices rules rules') :=
  decidable_of_iff
    (rules.map (·.replacement.toList) = rules'.map (·.replacement.toList) ∧
      (2 ≤ rules.length → rules.map (·.weight) = rules'.map (·.weight)))
    ⟨fun ⟨hreplacements, hweights⟩ => ⟨hreplacements, hweights⟩,
      fun h => ⟨h.replacements, h.weights⟩⟩

namespace Description

/-- Descriptions that say the same of every token. -/
structure SameSystem (d d' : Description) : Prop where
  meaning?_eq : ∀ name, d.meaning? name = d'.meaning? name
  sameChoices : ∀ name, Rule.SameChoices (d.rulesFor name) (d'.rulesFor name)

/-- **Descriptions of the same ribbon.** -/
structure SameRibbon (d d' : Description) : Prop extends SameSystem d d' where
  start : d.start.toList = d'.start.toList
  generations : d.generations = d'.generations
  seed : d.seed = d'.seed
  turtle : d.turtle = d'.turtle
  curve : d.curve = d'.curve

/-- It is enough to look at the keys that are bound and the symbols that have rules. -/
private theorem sameSystem_iff {d d' : Description} :
    d.SameSystem d' ↔
      (∀ pair ∈ d.bindings.toList ++ d'.bindings.toList, d.meaning? pair.1 = d'.meaning? pair.1) ∧
        ∀ rule ∈ d.rules ++ d'.rules,
          Rule.SameChoices (d.rulesFor rule.symbol) (d'.rulesFor rule.symbol) := by
  constructor
  · intro h
    exact ⟨fun pair _ => h.meaning?_eq pair.1, fun rule _ => h.sameChoices rule.symbol⟩
  · rintro ⟨hkeys, hrules⟩
    constructor
    · intro name
      by_cases hname : ∃ pair ∈ d.bindings.toList ++ d'.bindings.toList, pair.1 = name
      · obtain ⟨pair, hpair, rfl⟩ := hname
        exact hkeys pair hpair
      · -- Neither description binds it, so it keeps its conventional meaning.
        have hnone {bs : Bindings} (hbs : bs.toList ⊆ d.bindings.toList ++ d'.bindings.toList) :
            bs.get? name = none := by
          rw [Bindings.get?, List.lookup_eq_none_iff]
          intro pair hpair
          rw [bne_iff_ne]
          exact fun heq => hname ⟨pair, hbs hpair, heq.symm⟩
        rw [meaning?, meaning?, hnone (List.subset_append_left _ _),
          hnone (List.subset_append_right _ _)]
    · intro name
      by_cases hname : ∃ rule ∈ d.rules ++ d'.rules, rule.symbol = name
      · obtain ⟨rule, hrule, rfl⟩ := hname
        exact hrules rule hrule
      · -- Neither description has a rule for it, so there is nothing to compare.
        have hnil {d₀ : Description} (hd : d₀.rules ⊆ d.rules ++ d'.rules) :
            d₀.rulesFor name = [] := by
          rw [List.eq_nil_iff_forall_not_mem]
          intro rule hrule
          obtain ⟨hmem, hsymbol⟩ := mem_rulesFor.1 hrule
          exact hname ⟨rule, hd hmem, hsymbol⟩
        rw [hnil (List.subset_append_left _ _), hnil (List.subset_append_right _ _)]
        exact ⟨rfl, fun _ => rfl⟩

instance (d d' : Description) : Decidable (d.SameSystem d') :=
  decidable_of_iff _ sameSystem_iff.symm

end Description

/-! ### Grammars that simulate each other -/

/-- Symbols of two tables with the same token. -/
def SymbolTable.SameToken (t t' : SymbolTable) (s s' : Symbol) : Prop :=
  ∃ name, t.name? s = some name ∧ t'.name? s' = some name

/-- Words that stand for the same texts correspond. -/
theorem SymbolTable.Spells.sameToken {t t' : SymbolTable} {w w' : List Symbol}
    {names : List String} (h : t.Spells w names) (h' : t'.Spells w' names) :
    List.Forall₂ (t.SameToken t') w w' :=
  forall₂_of_common (spells_iff_forall₂.1 h) (spells_iff_forall₂.1 h')

namespace Grammar.Loaded

variable {d d' : Description} {g g' : Grammar} {s : Symbol} {name : String}

theorem spells_replacements (h : Loaded d g) (hname : g.symbols.name? s = some name) :
    List.Forall₂ (fun p names => g.symbols.Spells p.replacement names) (g.productions s)
      ((d.rulesFor name).map (·.replacement.toList)) := by
  rw [List.forall₂_map_right_iff]
  exact (h.forall₂_productions hname).flip.imp fun p rule hp => hp.1

private theorem weights_eq (h : Loaded d g) (hname : g.symbols.name? s = some name) :
    (g.productions s).map (·.weight) = (d.rulesFor name).map (·.weight) := by
  have hrules := (h.forall₂_productions hname).imp fun rule p hp => hp.2.symm
  exact (map_eq_map_iff_forall₂.2 hrules).symm

/-- **Grammars of descriptions that say the same simulate each other.** -/
theorem simulates_of_sameSystem (h : Loaded d g) (h' : Loaded d' g') (hsame : d.SameSystem d') :
    g.Simulates g' (g.symbols.SameToken g'.symbols) where
  name?_eq := by
    rintro s s' ⟨name, hname, hname'⟩
    rw [hname, hname']
  meaning?_eq := by
    rintro s s' ⟨name, hname, hname'⟩
    rw [h.meaning?_of_name? hname, h'.meaning?_of_name? hname', hsame.meaning?_eq]
  productions := by
    rintro s s' ⟨name, hname, hname'⟩
    have hchoices := hsame.sameChoices name
    have hrules := h.spells_replacements hname
    have hrules' := h'.spells_replacements hname'
    -- The replacements on both sides spell the same texts.
    rw [← hchoices.replacements] at hrules'
    constructor
    · refine (forall₂_of_common hrules hrules').imp ?_
      rintro p p' ⟨names, hp, hp'⟩
      exact hp.sameToken hp'
    · intro hchoice
      have hlength : (g.productions s).length = (d.rulesFor name).length := by
        rw [hrules.length_eq, List.length_map]
      rw [h.weights_eq hname, h'.weights_eq hname', hchoices.weights (hlength ▸ hchoice)]

end Grammar.Loaded

/-! ### Results -/

namespace Ribbon

/-- **How a ribbon is described does not matter.** Descriptions of the same ribbon give the same
text and the same curves, or fail with the same error. -/
theorem results_eq_of_sameRibbon {d d' : Description} {r r' : Ribbon}
    (h : ofDescription d = .ok r) (h' : ofDescription d' = .ok r') (hsame : d.SameRibbon d') :
    r.commandText = r'.commandText ∧ r.evaluate = r'.evaluate := by
  obtain ⟨-, -, g, hg, rfl⟩ := ofDescription_eq_ok_iff.1 h
  obtain ⟨-, -, g', hg', rfl⟩ := ofDescription_eq_ok_iff.1 h'
  have hloaded := Grammar.loaded_of_ofDescription hg
  have hloaded' := Grammar.loaded_of_ofDescription hg'
  have hsim := hloaded.simulates_of_sameSystem hloaded' hsame.toSameSystem
  have hstart : List.Forall₂ (g.symbols.SameToken g'.symbols) g.start g'.start :=
    hloaded.start_spells.sameToken (hsame.start ▸ hloaded'.start_spells)
  have hexpand := hsim.sameOutcome_expand hstart d.seed d.generations
  constructor
  · unfold commandText expand
    rw [← hsame.seed, ← hsame.generations]
    refine hexpand.bind_eq fun w w' hw => ?_
    rw [hsim.render_eq hw]
  · unfold evaluate expand repertoire
    rw [← hsame.seed, ← hsame.generations, ← hsame.turtle, ← hsame.curve]
    -- The width is looked at first, and it is the same one.
    refine congrArg _ (funext fun _ => hexpand.bind_eq fun w w' hw => ?_)
    rw [hsim.trace_eq hw]

/-- A hedge that is written with texts. -/
def hedge : Description where
  start := .text "A + B"
  rules := [
    { symbol := "A", replacement := .text "F[+C]A" },
    { symbol := "A", replacement := .text "CDA", weight := 3 },
    { symbol := "B", replacement := .text "[-D]B", weight := 7 },
    { symbol := "C", replacement := .text "FF" },
    { symbol := "D", replacement := .text "FC" }]
  generations := 4
  seed := 11

/-- The same hedge token by token. Its rules come in another order, the weight that stands alone is
another one, and a symbol is bound to what it means anyway. -/
def hedgeByTokens : Description where
  start := .tokens ["A", "+", "B"]
  rules := [
    { symbol := "D", replacement := .tokens ["F", "C"] },
    { symbol := "B", replacement := .text "[-D]B" },
    { symbol := "A", replacement := .tokens ["F", "[", "+", "C", "]", "A"] },
    { symbol := "C", replacement := .tokens ["F", "F"] },
    { symbol := "A", replacement := .text "C D A", weight := 3 }]
  bindings := .ofList [("F", .forward)]
  generations := 4
  seed := 11

/-- The two hedges number their symbols differently, and nobody can tell. -/
theorem results_eq_hedge :
    ∃ r r', ofDescription hedge = .ok r ∧ ofDescription hedgeByTokens = .ok r' ∧
      hedge.SameRibbon hedgeByTokens ∧ r.grammar.symbols.toList ≠ r'.grammar.symbols.toList ∧
      r.commandText = r'.commandText ∧ r.evaluate = r'.evaluate := by
  have hsystem : hedge.SameSystem hedgeByTokens := by decide +kernel
  have hstart : hedge.start.toList = hedgeByTokens.start.toList := by decide +kernel
  have hsame : hedge.SameRibbon hedgeByTokens := ⟨hsystem, hstart, rfl, rfl, rfl, rfl⟩
  have hload : Grammar.IsLoadable hedge := by decide +kernel
  have hload' : Grammar.IsLoadable hedgeByTokens := by decide +kernel
  obtain ⟨g, hg⟩ := hload.exists_ofDescription
  obtain ⟨g', hg'⟩ := hload'.exists_ofDescription
  have h : ofDescription hedge = .ok ⟨g, 4, 11, hedge.turtle, hedge.curve⟩ :=
    ofDescription_eq_ok_iff.2 ⟨rfl, rfl, g, hg, rfl⟩
  have h' : ofDescription hedgeByTokens =
      .ok ⟨g', 4, 11, hedgeByTokens.turtle, hedgeByTokens.curve⟩ :=
    ofDescription_eq_ok_iff.2 ⟨rfl, rfl, g', hg', rfl⟩
  -- The tokens are the same but come in another order, so the numbers differ.
  have htokens : g.symbols.toList ≠ g'.symbols.toList := by
    rw [(Grammar.loaded_of_ofDescription hg).enrolled.toList_eq,
      (Grammar.loaded_of_ofDescription hg').enrolled.toList_eq]
    decide +kernel
  exact ⟨_, _, h, h', hsame, htokens, results_eq_of_sameRibbon h h' hsame⟩

end Ribbon

end LSystem
