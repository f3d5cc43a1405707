import LSystem.Proofs.Grammar.Loading
import LSystem.Proofs.Ribbon.Evaluation
import Mathlib.Data.Finset.Card

/-!
# Which descriptions are accepted

What a description has to be like is said in its own terms: the settings are finite, every text that
is used as a token is one, start word and replacements are not empty, there are weights, their sums
are small enough where there is a choice, and the tokens can be numbered (`IsWellFormed`). The
loader does not look at these conditions one after the other. It meets texts while it numbers
them, so a text that is no token and a full table are found in one loop; it counts the tokens that
it has met so far, each once; and it adds up the weights of a symbol that has a single rule as well.

Acceptance follows from `Grammar.IsLoadable`, which speaks of the loops. Two of its parts need an
argument: the list of the tokens that have been met, each once, is as long as their set is large
(`length_enroll_tokens`), and a weight that stands alone is never too much
(`weightFor_le_of_length_lt`).

That a description is refused already follows from this, but not what for. So every loop has a lemma
about its failures besides the one about its results. The tokens that have been numbered before a
loop fails come first in the description, and what the table refuses then, grown by them, was to be
refused from the start (`SymbolTable.Refuses.right`). Whatever the loader fails with therefore says
of the description what is wrong with it (`HasDefect`), and nothing else is ever said.
-/

namespace LSystem

/-! ### Well-formed descriptions -/

/-- A text that is not empty and has no white space in it. -/
def IsToken (text : String) : Prop := text ≠ "" ∧ ∀ c ∈ text.toList, Text.isBlank c = false

theorem isToken_eq_true_iff {text : String} : SymbolTable.isToken text = true ↔ IsToken text := by
  rw [SymbolTable.isToken, IsToken, Bool.and_eq_true, Bool.not_eq_true', Bool.not_eq_true',
    List.any_eq_false]
  simp

private theorem isToken_eq_false_iff {text : String} :
    SymbolTable.isToken text = false ↔ ¬ IsToken text := by
  rw [← isToken_eq_true_iff, Bool.not_eq_true]

namespace Description

/-- **A well-formed description.** -/
structure IsWellFormed (d : Description) : Prop where
  step : d.turtle.step.isFinite = true
  angle : d.turtle.angle.isFinite = true
  lengthFactor : d.turtle.lengthFactor.isFinite = true
  width_finite : d.curve.width.isFinite = true
  width_nonneg : ¬ d.curve.width < 0
  keys : ∀ pair ∈ d.bindings.toList, IsToken pair.1
  start_ne_nil : d.start.toList ≠ []
  start : ∀ token ∈ d.start.toList, IsToken token
  symbol : ∀ rule ∈ d.rules, IsToken rule.symbol
  replacement_ne_nil : ∀ rule ∈ d.rules, rule.replacement.toList ≠ []
  replacement : ∀ rule ∈ d.rules, ∀ token ∈ rule.replacement.toList, IsToken token
  weight : ∀ rule ∈ d.rules, 1 ≤ rule.weight
  /-- Only where there is a choice are weights added up. -/
  weightFor : ∀ name, 2 ≤ (d.rulesFor name).length → d.weightFor name ≤ maxWeight
  /-- The conventional symbols count as well. -/
  card_tokens : d.tokens.toFinset.card ≤ maxSymbols

/-- **What is wrong with a description,** by the defect that says so. -/
inductive HasDefect (d : Description) : Defect → Prop
  | settingNotFinite {setting : Turtle.Setting} {value : Float32}
      (hmem : (setting, value) ∈ d.turtle.toList) (hvalue : value.isFinite = false) :
      d.HasDefect (.settingNotFinite setting value)
  | badWidth (h : d.curve.width.isFinite = false ∨ d.curve.width < 0) :
      d.HasDefect (.badWidth d.curve.width)
  | emptyStart (h : d.start.toList = []) : d.HasDefect .emptyStart
  | notAToken {text : String} (hmem : text ∈ d.tokens) (htext : ¬ IsToken text) :
      d.HasDefect (.notAToken text)
  | noReplacement {rule : Rule} (hmem : rule ∈ d.rules) (h : rule.replacement.toList = []) :
      d.HasDefect (.noReplacement rule.symbol)
  | zeroWeight {rule : Rule} (hmem : rule ∈ d.rules) (h : rule.weight = 0) :
      d.HasDefect (.zeroWeight rule.symbol)
  | weightOverflow {name : String} (hrules : 2 ≤ (d.rulesFor name).length)
      (h : maxWeight < d.weightFor name) : d.HasDefect (.weightOverflow name)
  | tooManySymbols (h : maxSymbols < d.tokens.toFinset.card) : d.HasDefect .tooManySymbols

theorem forall_mem_tokens {d : Description} {P : String → Prop} :
    (∀ name ∈ d.tokens, P name) ↔
      (∀ pair ∈ Turtle.Operation.standard, P pair.1) ∧ (∀ pair ∈ d.bindings.toList, P pair.1) ∧
        (∀ token ∈ d.start.toList, P token) ∧
        ∀ rule ∈ d.rules, P rule.symbol ∧ ∀ token ∈ rule.replacement.toList, P token := by
  simp only [tokens, vocabulary, Rule.tokens, List.map_append, List.forall_mem_append,
    List.forall_mem_map, List.forall_mem_flatMap, List.forall_mem_cons, and_assoc]

/-- The list of all tokens, each once, is as long as the set of them is large. -/
theorem length_enroll_tokens (d : Description) :
    (SymbolTable.enroll SymbolTable.empty.toList d.tokens).length = d.tokens.toFinset.card := by
  have hnodup : (SymbolTable.enroll [] d.tokens).Nodup :=
    SymbolTable.nodup_enroll List.nodup_nil d.tokens
  have hsame : (SymbolTable.enroll [] d.tokens).toFinset = d.tokens.toFinset := by
    ext name
    simp
  rw [SymbolTable.toList_empty, ← List.toFinset_card_of_nodup hnodup, hsame]

/-- A weight that stands alone is never too much. -/
theorem weightFor_le_of_length_lt {d : Description} {name : String}
    (h : (d.rulesFor name).length < 2) : d.weightFor name ≤ maxWeight := by
  unfold weightFor
  rcases hrules : d.rulesFor name with _ | ⟨rule, _ | ⟨rule', rules⟩⟩
  · exact Nat.zero_le _
  · simp only [List.map_singleton, Chance.sumOf_cons, Chance.sumOf_nil, Nat.add_zero]
    exact Nat.le_of_lt_succ rule.weight.toNat_lt
  · rw [hrules, List.length_cons, List.length_cons] at h
    omega

end Description

/-! ### Settings -/

theorem Turtle.Settings.validate_eq_ok_iff {s : Turtle.Settings} :
    s.validate = .ok () ↔ ∀ pair ∈ s.toList, pair.2.isFinite = true := by
  rw [validate, firstNotFinite?]
  cases hfind : s.toList.find? fun p => !p.2.isFinite with
  | none => simpa using hfind
  | some pair =>
    have hnot := List.find?_some hfind
    simp only [reduceCtorEq, false_iff]
    intro hall
    simp [hall pair (List.mem_of_find?_eq_some hfind)] at hnot

private theorem Turtle.Settings.exists_of_validate_eq_error {s : Turtle.Settings} {defect : Defect}
    (h : s.validate = .error defect) :
    ∃ setting value, (setting, value) ∈ s.toList ∧ value.isFinite = false ∧
      defect = .settingNotFinite setting value := by
  rw [validate, firstNotFinite?] at h
  split at h
  · next setting value hfind =>
    cases h
    have hnot := List.find?_some hfind
    exact ⟨setting, value, List.mem_of_find?_eq_some hfind, by simpa using hnot, rfl⟩
  · cases h

theorem Curve.Settings.validate_eq_ok_iff {s : Curve.Settings} :
    s.validate = .ok () ↔ s.width.isFinite = true ∧ ¬ s.width < 0 := by
  rw [validate, isValid]
  split
  · next h => simpa using h
  · next h =>
    simp only [reduceCtorEq, false_iff]
    simpa using h

theorem Curve.Settings.of_validate_eq_error {s : Curve.Settings} {defect : Defect}
    (h : s.validate = .error defect) :
    (s.width.isFinite = false ∨ s.width < 0) ∧ defect = .badWidth s.width := by
  -- The check has one question only, so its answer says which half of it failed.
  have hnot : ¬ (s.width.isFinite = true ∧ ¬ s.width < 0) := by
    rw [← validate_eq_ok_iff, h]
    nofun
  rw [validate] at h
  split at h
  · cases h
  · cases h
    refine ⟨?_, rfl⟩
    rw [not_and_or, not_not, Bool.not_eq_true] at hnot
    exact hnot

/-! ### Acceptance -/

namespace Description

/-- A grammar can be made of a well-formed description. -/
theorem IsWellFormed.isLoadable {d : Description} (h : d.IsWellFormed) : Grammar.IsLoadable d := by
  refine ⟨⟨?_, ?_⟩, h.start_ne_nil, ?_, ?_⟩
  · -- Nothing has to be asked of the conventional symbols, which are tokens.
    have hstandard : ∀ pair ∈ Turtle.Operation.standard,
        SymbolTable.isToken pair.1 = true := by decide
    rw [forall_mem_tokens]
    simp only [isToken_eq_true_iff] at hstandard ⊢
    exact ⟨hstandard, h.keys, h.start,
      fun rule hrule => ⟨h.symbol rule hrule, h.replacement rule hrule⟩⟩
  · rw [length_enroll_tokens]
    exact h.card_tokens
  · intro rule hrule
    refine ⟨h.replacement_ne_nil rule hrule, fun hzero => ?_⟩
    have hweight := h.weight rule hrule
    rw [hzero] at hweight
    exact absurd hweight (by decide)
  · -- The weight of a rule that stands alone is a word as it is.
    intro rule _
    by_cases hchoice : 2 ≤ (d.rulesFor rule.symbol).length
    · exact h.weightFor _ hchoice
    · exact weightFor_le_of_length_lt (Nat.lt_of_not_le hchoice)

/-- A description is well-formed if its settings are in order and there is a grammar. -/
theorem isWellFormed_iff {d : Description} :
    d.IsWellFormed ↔
      d.turtle.validate = .ok () ∧ d.curve.validate = .ok () ∧ Grammar.IsLoadable d := by
  rw [Turtle.Settings.validate_eq_ok_iff, Curve.Settings.validate_eq_ok_iff]
  constructor
  · intro h
    exact ⟨by simp [Turtle.Settings.toList, h.step, h.angle, h.lengthFactor],
      ⟨h.width_finite, h.width_nonneg⟩, h.isLoadable⟩
  · rintro ⟨hturtle, ⟨hfinite, hnonneg⟩, hload⟩
    simp only [Turtle.Settings.toList, List.forall_mem_cons] at hturtle
    obtain ⟨hstep, hangle, hfactor, -⟩ := hturtle
    have htokens := hload.admits.isToken
    simp only [isToken_eq_true_iff] at htokens
    obtain ⟨-, hkeys, hstart, hrules⟩ := forall_mem_tokens.1 htokens
    -- Weights are counted in a type without signs, so not zero is at least one.
    have hweights : ∀ rule ∈ d.rules, 1 ≤ rule.weight := by
      intro rule hrule
      have hne : rule.weight ≠ 0 := (hload.isUsable rule hrule).2
      grind
    exact
      { step := hstep
        angle := hangle
        lengthFactor := hfactor
        width_finite := hfinite
        width_nonneg := hnonneg
        keys := hkeys
        start_ne_nil := hload.start_ne_nil
        start := hstart
        symbol := fun rule hrule => (hrules rule hrule).1
        replacement_ne_nil := fun rule hrule => (hload.isUsable rule hrule).1
        replacement := fun rule hrule => (hrules rule hrule).2
        weight := hweights
        weightFor := fun name _ => hload.weightFor_le_maxWeight name
        card_tokens := d.length_enroll_tokens ▸ hload.admits.length_le }

end Description

/-! ### Refusal -/

namespace Grammar

variable {t t' : SymbolTable} {defect : Defect}

private theorem refuses_of_bindAll {meanings : Meanings} {pairs : List (String × Turtle.Operation)}
    (h : bindAll t meanings pairs = .error defect) : t.Refuses (pairs.map Prod.fst) defect := by
  induction pairs generalizing t meanings with
  | nil => cases h
  | cons pair pairs ih =>
    obtain ⟨key, op⟩ := pair
    rw [bindAll] at h
    split at h
    · next s t₁ hkey =>
      -- The table has grown by the first key, which comes before what is refused.
      exact (ih h).right (SymbolTable.numbered_of_internToken hkey).toEnrolled
    · next e t₁ hkey =>
      cases h
      exact (SymbolTable.refuses_of_internToken hkey).left _

/-- **What makes a rule unusable,** apart from its tokens. -/
inductive IsUseless (rule : Rule) : Defect → Prop
  | noReplacement (h : rule.replacement.toList = []) : IsUseless rule (.noReplacement rule.symbol)
  | zeroWeight (h : rule.weight = 0) : IsUseless rule (.zeroWeight rule.symbol)

private theorem refuses_or_isUseless_of_numberRule {rule : Rule}
    (h : numberRule t rule = .error defect) :
    t.Refuses rule.tokens defect ∨ IsUseless rule defect := by
  -- The symbol is numbered first, then the replacement, and only then is the rule looked at.
  rw [numberRule] at h
  rcases hsymbol : t.internToken rule.symbol with ⟨result, t₁⟩
  simp only [hsymbol, bind_eq_error_iff, ite_throw_eq_error_iff, pure_ne_error, or_false,
    and_false, Prod.exists, List.isEmpty_iff] at h
  rcases h with rfl | ⟨s, rfl, h⟩
  · exact .inl ((SymbolTable.refuses_of_internToken hsymbol).left _)
  have hfirst := SymbolTable.numbered_of_internToken hsymbol
  rcases h with h | ⟨replacement, t₂, htokens, h⟩
  · exact .inl ((SymbolTable.refuses_of_internTokens h).right hfirst.toEnrolled)
  have hrest := SymbolTable.numbered_of_internTokens htokens
  rcases h with ⟨hnil, rfl⟩ | ⟨-, hzero, rfl⟩
  · exact .inr (.noReplacement (hrest.spells.eq_nil_iff.1 hnil))
  · exact .inr (.zeroWeight hzero)

private theorem refuses_or_isUseless_of_numberRules {rules : List Rule}
    (h : numberRules t rules = .error defect) :
    t.Refuses (rules.flatMap Rule.tokens) defect ∨ ∃ rule ∈ rules, IsUseless rule defect := by
  -- The rules that have been numbered before have no say in what is wrong with the others.
  suffices ∀ done, numberOnto done t rules = .error defect →
      t.Refuses (rules.flatMap Rule.tokens) defect ∨ ∃ rule ∈ rules, IsUseless rule defect from
    this [] h
  clear h
  induction rules generalizing t with
  | nil => exact fun done => nofun
  | cons rule rules ih =>
    intro done h
    rw [numberOnto] at h
    rw [List.flatMap_cons]
    split at h
    · next p t₁ hrule =>
      have hfirst := (enrolled_of_numberRule hrule).1
      rcases ih _ h with hrefuses | ⟨r, hr, huseless⟩
      · exact .inl (hrefuses.right hfirst)
      · exact .inr ⟨r, List.mem_cons_of_mem _ hr, huseless⟩
    · next e hrule =>
      cases h
      rcases refuses_or_isUseless_of_numberRule hrule with hrefuses | huseless
      · exact .inl (hrefuses.left _)
      · exact .inr ⟨rule, List.mem_cons_self, huseless⟩

/-- A symbol whose weights overflow has a rule, and a token whose weights do. -/
private theorem exists_of_overflow? {d : Description} {numbered : List (Symbol × Production)}
    {s : Symbol}
    (hrules : List.Forall₂ (Represents t) d.rules numbered)
    (h : overflow? numbered (group numbered) = some s) :
    ∃ name, t.name? s = some name ∧ maxWeight < d.weightFor name := by
  rw [overflow?, Option.map_eq_some_iff] at h
  obtain ⟨rule, hfind, rfl⟩ := h
  obtain ⟨r, -, hr⟩ := exists_mem_left_of_forall₂ hrules (List.mem_of_find?_eq_some hfind)
  have hcontains := List.find?_some hfind
  have hheavy := (contains_filter_group numbered rule.1).1 hcontains
  exact ⟨r.symbol, hr.name?_eq, weightAmong_eq hrules hr.name?_eq ▸ hheavy⟩

end Grammar

namespace Description

variable {d : Description} {defect : Defect}

private theorem hasDefect_of_refuses (h : SymbolTable.empty.Refuses d.tokens defect) :
    d.HasDefect defect := by
  cases h with
  | notAToken hmem htoken => exact .notAToken hmem (isToken_eq_false_iff.1 htoken)
  | tooMany hlength => exact .tooManySymbols (d.length_enroll_tokens ▸ hlength)

private theorem hasDefect_of_isUseless {rule : Rule} (hmem : rule ∈ d.rules)
    (h : Grammar.IsUseless rule defect) : d.HasDefect defect := by
  cases h with
  | noReplacement h => exact .noReplacement hmem h
  | zeroWeight h => exact .zeroWeight hmem h

/-- **What a grammar fails for is wrong with the description.** -/
theorem hasDefect_of_grammar (h : Grammar.ofDescription d = .error defect) :
    d.HasDefect defect := by
  rw [Grammar.ofDescription] at h
  simp only [bind_eq_error_iff, ite_throw_eq_error_iff, Prod.exists, List.isEmpty_iff] at h
  -- The tokens that have been numbered before come first among all tokens.
  rcases h with h | ⟨t₀, meanings, hlexicon, h⟩
  · have hkeys := Grammar.refuses_of_bindAll h
    apply hasDefect_of_refuses
    rw [tokens, List.append_assoc]
    exact hkeys.left _
  have hkeys := (Grammar.enrolled_of_bindAll hlexicon).1
  rcases h with h | ⟨start, t₁, hstart, h⟩
  · have hword := SymbolTable.refuses_of_internTokens h
    exact hasDefect_of_refuses ((hword.right hkeys).left _)
  have hword := SymbolTable.numbered_of_internTokens hstart
  rcases h with ⟨hnil, rfl⟩ | ⟨-, h⟩
  · exact .emptyStart (hword.spells.eq_nil_iff.1 hnil)
  rcases h with h | ⟨numbered, t, hnumber, h⟩
  · rcases Grammar.refuses_or_isUseless_of_numberRules h with hrules | ⟨rule, hmem, huseless⟩
    · exact hasDefect_of_refuses (hrules.right (hkeys.append hword.toEnrolled))
    · exact hasDefect_of_isUseless hmem huseless
  obtain ⟨-, -, hrules⟩ := Grammar.enrolled_of_numberRules hnumber
  split at h
  · next s hoverflow =>
    cases h
    obtain ⟨name, hname, hheavy⟩ := Grammar.exists_of_overflow? hrules hoverflow
    rw [hname]
    -- One weight is never too much, so there is a choice.
    refine .weightOverflow ?_ hheavy
    by_contra hfew
    exact absurd (weightFor_le_of_length_lt (Nat.lt_of_not_le hfew)) (Nat.not_le.2 hheavy)
  · cases h

end Description

namespace Ribbon

theorem hasDefect_of_ofDescription {d : Description} {defect : Defect}
    (h : ofDescription d = .error defect) : d.HasDefect defect := by
  rw [ofDescription] at h
  simp only [bind_eq_error_iff, pure_ne_error, and_false, exists_false, or_false] at h
  rcases h with h | ⟨_, -, h | ⟨_, -, h⟩⟩
  · obtain ⟨setting, value, hmem, hvalue, rfl⟩ := Turtle.Settings.exists_of_validate_eq_error h
    exact .settingNotFinite hmem hvalue
  · obtain ⟨hwidth, rfl⟩ := Curve.Settings.of_validate_eq_error h
    exact .badWidth hwidth
  · exact Description.hasDefect_of_grammar h

/-- **Exactly the well-formed descriptions are accepted.** For every other one the loader reports
something that is wrong with it, as a malformed grammar. -/
theorem exists_ofDescription_iff_isWellFormed (d : Description) :
    ((∃ r, ofDescription d = .ok r) ↔ d.IsWellFormed) ∧
    (¬ d.IsWellFormed → ∃ defect, d.HasDefect defect ∧
      (ofDescription d).mapError Error.malformed = .error (.malformed defect)) := by
  have hok : (∃ r, ofDescription d = .ok r) ↔ d.IsWellFormed := by
    rw [Description.isWellFormed_iff, ← Grammar.exists_ofDescription_iff]
    constructor
    · rintro ⟨r, hr⟩
      obtain ⟨hturtle, hcurve, g, hg, -⟩ := ofDescription_eq_ok_iff.1 hr
      exact ⟨hturtle, hcurve, g, hg⟩
    · rintro ⟨hturtle, hcurve, g, hg⟩
      exact ⟨_, ofDescription_eq_ok_iff.2 ⟨hturtle, hcurve, g, hg, rfl⟩⟩
  -- What is refused has a defect, or it would have been accepted after all.
  refine ⟨hok, fun hill => ?_⟩
  cases hload : ofDescription d with
  | ok r => exact absurd (hok.1 ⟨r, hload⟩) hill
  | error defect => exact ⟨defect, hasDefect_of_ofDescription hload, rfl⟩

/-- A bramble that grows by the greatest weight there is, and by other rules. -/
def bramble (others : List Rule) : Description where
  start := .text "A [B]"
  rules := { symbol := "A", replacement := .text "F[+A]B", weight := 4294967295 } :: others

/-- The greatest weight can stand alone, even beside that of another symbol, but no other rule for
the symbol can come to it. -/
theorem ofDescription_bramble :
    (∃ r, ofDescription (bramble [{ symbol := "B", replacement := .text "FF" }]) = .ok r) ∧
      ∃ defect,
        (ofDescription (bramble [{ symbol := "A", replacement := .text "FF" }])).mapError
          Error.malformed = .error (.malformed defect) := by
  -- The other rule has a symbol of its own at first, and then stands beside the greatest weight.
  obtain ⟨hiff, -⟩ := exists_ofDescription_iff_isWellFormed
    (bramble [{ symbol := "B", replacement := .text "FF" }])
  obtain ⟨-, hrefused⟩ := exists_ofDescription_iff_isWellFormed
    (bramble [{ symbol := "A", replacement := .text "FF" }])
  constructor
  · refine hiff.2 (Description.isWellFormed_iff.2 ⟨rfl, rfl, ?_⟩)
    decide +kernel
  · obtain ⟨defect, -, herror⟩ := hrefused fun hwell => by
      have hle := hwell.weightFor "A" (by decide +kernel)
      exact absurd hle (by decide +kernel)
    exact ⟨defect, herror⟩

end Ribbon

end LSystem
