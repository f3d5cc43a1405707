import LSystem.Proofs.Description.Tokens
import LSystem.Proofs.Grammar.Grouping
import LSystem.Proofs.Outcome
import LSystem.Proofs.Pairs
import LSystem.Proofs.Symbol.Interning

/-!
# What loading makes of a description

A description speaks of tokens and its grammar of numbers. `Loaded` says how the two fit together,
token by token: the symbols of the start word stand for its tokens, the productions of a symbol
stand for the rules of its token in their order, and the meaning of a symbol is the meaning of its
token. A symbol without a token has neither rules nor a meaning. Everything about evaluation that
is said of a description goes through it.

The loops of the loader are taken one by one. Each of them has two lemmas: what its result is, and
that there is a result if the table admits the tokens. The parts of a description follow each other
in its tokens as they do in the loader, so the tokens that one loop leaves are those that the next
one needs.

* `loaded_of_ofDescription`: a grammar that has been loaded fits its description.
* `exists_ofDescription_iff`: what a description has to be like for there to be a grammar.
-/

namespace LSystem

open Turtle Chance

namespace Grammar

variable {t t' : SymbolTable}

/-! ### Meanings -/

/-- A symbol means what its token was bound to last, and otherwise what it meant before. -/
theorem enrolled_of_bindAll {meanings meanings' : Meanings} {pairs : List (String × Operation)}
    (h : bindAll t meanings pairs = .ok (t', meanings')) :
    t.Enrolled (pairs.map Prod.fst) t' ∧
      ∀ s, meanings'[s]? =
        ((t'.name? s).bind fun name => pairs.reverse.lookup name).or meanings[s]? := by
  -- The induction is on the pairs still to be bound, over any meanings that are there.
  induction pairs generalizing t meanings with
  | nil =>
    cases h
    refine ⟨.nil t', fun s => ?_⟩
    cases t'.name? s <;> rfl
  | cons pair pairs ih =>
    obtain ⟨key, op⟩ := pair
    rw [bindAll] at h
    split at h
    · next s₀ t₁ hkey =>
      have hnumbered := SymbolTable.numbered_of_internToken hkey
      obtain ⟨hrest, hmeanings⟩ := ih h
      refine ⟨hnumbered.toEnrolled.append hrest, fun s => ?_⟩
      have hkey₁ : t₁.name? s₀ = some key := SymbolTable.spells_singleton_iff.1 hnumbered.spells
      have hs₀ : t'.name? s₀ = some key := hrest.extends.name? hkey₁
      rw [hmeanings, List.reverse_cons, Std.HashMap.getElem?_insert]
      by_cases hs : s₀ = s
      · -- The token itself: what comes later counts more than the pair in front.
        subst hs
        rw [if_pos (beq_self_eq_true s₀), hs₀, Option.bind_some, Option.bind_some,
          List.lookup_append, List.lookup_cons_self, Option.or_assoc, Option.some_or]
      · -- The token of another symbol is another token.
        rw [if_neg (by simpa using hs)]
        cases hname : t'.name? s with
        | none => rfl
        | some name =>
          have hne : name ≠ key := fun heq => hs (SymbolTable.name?_inj hs₀ (heq ▸ hname))
          have hnone : [(key, op)].lookup name = none := by
            rw [List.lookup_cons, beq_false_of_ne hne, List.lookup_nil]
          rw [Option.bind_some, Option.bind_some, List.lookup_append, hnone, Option.or_none]
    · cases h

/-- Keys that are admitted can be bound. -/
private theorem exists_bindAll {pairs : List (String × Operation)}
    (h : t.Admits (pairs.map Prod.fst))
    (meanings : Meanings) : ∃ t' meanings', bindAll t meanings pairs = .ok (t', meanings') := by
  induction pairs generalizing t meanings with
  | nil => exact ⟨t, meanings, rfl⟩
  | cons pair pairs ih =>
    obtain ⟨key, op⟩ := pair
    rw [List.map_cons] at h
    obtain ⟨s, t₁, hkey⟩ := SymbolTable.exists_internToken h.head
    have hrest := h.tail (SymbolTable.numbered_of_internToken hkey).toEnrolled
    obtain ⟨t', meanings', hbind⟩ := ih hrest (meanings.insert s op)
    exact ⟨t', meanings', by rw [bindAll, hkey]; exact hbind⟩

/-! ### Rules -/

/-- A rule with a replacement and a weight. -/
def IsUsable (rule : Rule) : Prop := rule.replacement.toList ≠ [] ∧ rule.weight ≠ 0

instance (rule : Rule) : Decidable (IsUsable rule) :=
  inferInstanceAs (Decidable (rule.replacement.toList ≠ [] ∧ rule.weight ≠ 0))

/-- A numbered rule that stands for a rule. -/
structure Represents (t : SymbolTable) (rule : Rule) (numbered : Symbol × Production) : Prop where
  name?_eq : t.name? numbered.1 = some rule.symbol
  spells : t.Spells numbered.2.replacement rule.replacement.toList
  weight_eq : numbered.2.weight = rule.weight

theorem Represents.extends {rule : Rule} {numbered : Symbol × Production}
    (h : Represents t rule numbered) (hext : t.Extends t') : Represents t' rule numbered :=
  ⟨hext.name? h.name?_eq, h.spells.extends hext, h.weight_eq⟩

theorem numberRule_eq_ok_iff {rule : Rule} {numbered : Symbol × Production} :
    numberRule t rule = .ok (numbered, t') ↔
      ∃ t₁, t.internToken rule.symbol = (.ok numbered.1, t₁) ∧
        t₁.internTokens rule.replacement.toList = .ok (numbered.2.replacement, t') ∧
        numbered.2.replacement ≠ [] ∧ rule.weight ≠ 0 ∧ numbered.2.weight = rule.weight := by
  obtain ⟨s, replacement, weight⟩ := numbered
  rw [numberRule]
  obtain ⟨result, t₁⟩ := t.internToken rule.symbol
  simp only [bind_eq_ok_iff, ite_throw_eq_ok_iff, pure_eq_ok_iff, Prod.exists, List.isEmpty_iff]
  -- The symbol is numbered first, and the empty replacement and the weight are looked at last.
  constructor
  · rintro ⟨s, hsymbol, replacement, t₂, htokens, hne, hweight, heq⟩
    cases heq
    exact ⟨t₁, by rw [hsymbol], htokens, hne, hweight, rfl⟩
  · rintro ⟨t₁, hsymbol, htokens, hne, hweight, rfl⟩
    cases hsymbol
    exact ⟨s, rfl, replacement, t', htokens, hne, hweight, rfl⟩

/-- A rule that has been numbered. -/
theorem enrolled_of_numberRule {rule : Rule} {numbered : Symbol × Production}
    (h : numberRule t rule = .ok (numbered, t')) :
    t.Enrolled rule.tokens t' ∧ Represents t' rule numbered ∧ IsUsable rule := by
  obtain ⟨t₁, hsymbol, htokens, hne, hweight, hweights⟩ := numberRule_eq_ok_iff.1 h
  have hfirst := SymbolTable.numbered_of_internToken hsymbol
  have hrest := SymbolTable.numbered_of_internTokens htokens
  have hname : t₁.name? numbered.1 = some rule.symbol :=
    SymbolTable.spells_singleton_iff.1 hfirst.spells
  refine ⟨hfirst.toEnrolled.append hrest.toEnrolled,
    ⟨hrest.extends.name? hname, hrest.spells, hweights⟩, ?_, hweight⟩
  exact fun hnil => hne (hrest.spells.eq_nil_iff.2 hnil)

/-- A usable rule with admitted tokens can be numbered. -/
private theorem exists_numberRule {rule : Rule} (husable : IsUsable rule)
    (h : t.Admits rule.tokens) :
    ∃ numbered t', numberRule t rule = .ok (numbered, t') := by
  obtain ⟨hne, hweight⟩ := husable
  obtain ⟨s, t₁, hsymbol⟩ := SymbolTable.exists_internToken h.head
  have hrest := h.tail (SymbolTable.numbered_of_internToken hsymbol).toEnrolled
  obtain ⟨replacement, t', htokens⟩ := SymbolTable.exists_internTokens hrest
  have hspells := (SymbolTable.numbered_of_internTokens htokens).spells
  refine ⟨(s, ⟨replacement, rule.weight⟩), t',
    numberRule_eq_ok_iff.2 ⟨t₁, hsymbol, htokens, ?_, hweight, rfl⟩⟩
  exact fun hnil => hne (hspells.eq_nil_iff.1 hnil)

/-- Rules that are numbered behind those in `done`. -/
private theorem enrolled_of_numberOnto {rules : List Rule}
    {done numbered : List (Symbol × Production)}
    (h : numberOnto done t rules = .ok (numbered, t')) :
    t.Enrolled (rules.flatMap Rule.tokens) t' ∧ (∀ rule ∈ rules, IsUsable rule) ∧
      ∃ new, numbered = done.reverse ++ new ∧ List.Forall₂ (Represents t') rules new := by
  induction rules generalizing t done with
  | nil =>
    cases h
    exact ⟨.nil t', by simp, [], by rw [List.append_nil], .nil⟩
  | cons rule rules ih =>
    rw [numberOnto] at h
    split at h
    · next p t₁ hrule =>
      -- The first rule keeps its numbers, since the table only grows with the others.
      obtain ⟨hfirst, hrepresents, husable⟩ := enrolled_of_numberRule hrule
      obtain ⟨hrest, husables, new, hnumbered, hnew⟩ := ih h
      refine ⟨hfirst.append hrest, List.forall_mem_cons.2 ⟨husable, husables⟩, p :: new, ?_,
        .cons (hrepresents.extends hrest.extends) hnew⟩
      rw [hnumbered, List.reverse_cons, List.append_assoc, List.singleton_append]
    · cases h

/-- **All rules that have been numbered.** -/
theorem enrolled_of_numberRules {rules : List Rule} {numbered : List (Symbol × Production)}
    (h : numberRules t rules = .ok (numbered, t')) :
    t.Enrolled (rules.flatMap Rule.tokens) t' ∧ (∀ rule ∈ rules, IsUsable rule) ∧
      List.Forall₂ (Represents t') rules numbered := by
  obtain ⟨henrolled, husable, new, hnumbered, hnew⟩ := enrolled_of_numberOnto h
  rw [List.reverse_nil, List.nil_append] at hnumbered
  exact ⟨henrolled, husable, hnumbered ▸ hnew⟩

/-- Usable rules with admitted tokens can be numbered. -/
private theorem exists_numberRules {rules : List Rule} (husable : ∀ rule ∈ rules, IsUsable rule)
    (h : t.Admits (rules.flatMap Rule.tokens)) :
    ∃ numbered t', numberRules t rules = .ok (numbered, t') := by
  -- As with tokens, the rules that have been numbered before have no say in it.
  suffices ∀ done, ∃ numbered t', numberOnto done t rules = .ok (numbered, t') from this []
  induction rules generalizing t with
  | nil => exact fun done => ⟨done.reverse, t, rfl⟩
  | cons rule rules ih =>
    intro done
    rw [List.flatMap_cons] at h
    obtain ⟨p, t₁, hrule⟩ := exists_numberRule (husable rule List.mem_cons_self) h.left
    have hrest := h.right (enrolled_of_numberRule hrule).1
    obtain ⟨numbered, t', honto⟩ :=
      ih (fun r hr => husable r (List.mem_cons_of_mem _ hr)) hrest (p :: done)
    exact ⟨numbered, t', by rw [numberOnto, hrule]; exact honto⟩

/-- **The productions of a symbol stand for the rules of its token,** in their order. -/
theorem forall₂_productionsAmong {rules : List Rule} {numbered : List (Symbol × Production)}
    (h : List.Forall₂ (Represents t) rules numbered) {s : Symbol} {name : String}
    (hname : t.name? s = some name) :
    List.Forall₂ (fun (rule : Rule) (p : Production) =>
        t.Spells p.replacement rule.replacement.toList ∧ p.weight = rule.weight)
      (rules.filter fun rule => rule.symbol = name) (productionsAmong numbered s) := by
  rw [productionsAmong, List.forall₂_map_right_iff]
  -- A rule is for the token exactly if its number is the number of the token.
  have hfilter : List.Forall₂ (Represents t) (rules.filter fun rule => rule.symbol = name)
      (numbered.filter fun rule => rule.1 = s) := by
    refine List.rel_filter (fun rule p hp => ?_) h
    change decide (rule.symbol = name) = true ↔ decide (p.1 = s) = true
    rw [decide_eq_true_iff, decide_eq_true_iff]
    constructor
    · rintro rfl
      exact SymbolTable.name?_inj hp.name?_eq hname
    · rintro rfl
      exact Option.some.inj (hp.name?_eq.symm.trans hname)
  exact hfilter.imp fun rule p hp => ⟨hp.spells, hp.weight_eq⟩

/-- A symbol without a token has no productions. -/
theorem productionsAmong_of_name?_eq_none {rules : List Rule}
    {numbered : List (Symbol × Production)} (h : List.Forall₂ (Represents t) rules numbered)
    {s : Symbol} (hname : t.name? s = none) : productionsAmong numbered s = [] := by
  rw [productionsAmong, List.map_eq_nil_iff, List.filter_eq_nil_iff]
  intro p hp hs
  obtain ⟨rule, -, hrule⟩ := exists_mem_left_of_forall₂ h hp
  rw [← of_decide_eq_true hs, hrule.name?_eq] at hname
  cases hname

/-- The weights for a symbol add up to those for its token. -/
theorem weightAmong_eq {d : Description} {numbered : List (Symbol × Production)}
    (h : List.Forall₂ (Represents t) d.rules numbered) {s : Symbol} {name : String}
    (hname : t.name? s = some name) : weightAmong numbered s = d.weightFor name := by
  have hweights :
      (d.rulesFor name).map (·.weight) = (productionsAmong numbered s).map (·.weight) :=
    map_eq_map_iff_forall₂.2 ((forall₂_productionsAmong h hname).imp fun _ _ hp => hp.2.symm)
  rw [weightAmong, Description.weightFor, hweights]

/-! ### Grammars -/

/-- **A grammar that fits a description.** -/
structure Loaded (d : Description) (g : Grammar) : Prop where
  enrolled : SymbolTable.empty.Enrolled d.tokens g.symbols
  start_ne_nil : g.start ≠ []
  start_spells : g.symbols.Spells g.start d.start.toList
  isUsable : ∀ rule ∈ d.rules, IsUsable rule
  represents : ∃ numbered, g.rules = group numbered ∧
    List.Forall₂ (Represents g.symbols) d.rules numbered ∧
    ∀ s, weightAmong numbered s ≤ maxWeight
  meaning?_eq : ∀ s, g.meaning? s = (g.symbols.name? s).bind d.meaning?

theorem ofDescription_eq_ok_iff {d : Description} {g : Grammar} :
    ofDescription d = .ok g ↔
      ∃ t₀ t₁ numbered, lexicon d.bindings = .ok (t₀, g.meanings) ∧
        t₀.internTokens d.start.toList = .ok (g.start, t₁) ∧ g.start ≠ [] ∧
        numberRules t₁ d.rules = .ok (numbered, g.symbols) ∧
        g.rules = group numbered ∧ overflow? numbered (group numbered) = none := by
  rw [ofDescription]
  simp only [bind_eq_ok_iff, ite_throw_eq_ok_iff, Prod.exists, List.isEmpty_iff]
  constructor
  · rintro ⟨t₀, meanings, hlexicon, start, t₁, hstart, hne, numbered, t, hrules, hlast⟩
    cases hoverflow : overflow? numbered (group numbered) with
    | some s =>
      rw [hoverflow] at hlast
      cases hlast
    | none =>
      rw [hoverflow] at hlast
      cases hlast
      -- Without overflow the grammar is put together from these parts.
      exact ⟨t₀, t₁, numbered, hlexicon, hstart, hne, hrules, rfl, hoverflow⟩
  · rintro ⟨t₀, t₁, numbered, hlexicon, hstart, hne, hrules, hgroup, hoverflow⟩
    refine ⟨t₀, g.meanings, hlexicon, g.start, t₁, hstart, hne, numbered, g.symbols, hrules, ?_⟩
    rw [hoverflow, ← hgroup]
    rfl

/-- **A grammar that has been loaded fits its description.** -/
theorem loaded_of_ofDescription {d : Description} {g : Grammar} (h : ofDescription d = .ok g) :
    Loaded d g := by
  obtain ⟨t₀, t₁, numbered, hlexicon, hstart, hne, hrules, hgroup, hoverflow⟩ :=
    ofDescription_eq_ok_iff.1 h
  obtain ⟨hkeys, hmeanings⟩ := enrolled_of_bindAll hlexicon
  have hword := SymbolTable.numbered_of_internTokens hstart
  obtain ⟨hlast, husable, hrepresents⟩ := enrolled_of_numberRules hrules
  refine
    { enrolled := (hkeys.append hword.toEnrolled).append hlast
      start_ne_nil := hne
      start_spells := hword.spells.extends hlast.extends
      isUsable := husable
      represents := ⟨numbered, hgroup, hrepresents, (overflow?_eq_none_iff numbered).1 hoverflow⟩
      meaning?_eq := fun s => ?_ }
  -- Meanings are settled while the table holds the keys only, and the table grows after that.
  have hext : t₀.Extends g.symbols := hword.extends.trans hlast.extends
  rw [meaning?, hmeanings, Std.HashMap.getElem?_empty, Option.or_none]
  cases hs : t₀.name? s with
  | some name =>
    rw [hext.name? hs, Option.bind_some, Option.bind_some]
    exact d.lookup_reverse_vocabulary name
  | none =>
    rw [Option.bind_none]
    cases hname : g.symbols.name? s with
    | none => rfl
    | some name =>
      -- A token that was numbered after all keys is not a key.
      rw [Option.bind_some, ← d.lookup_reverse_vocabulary, eq_comm, List.lookup_eq_none_iff]
      intro pair hpair
      rw [bne_iff_ne]
      rintro rfl
      have hkey : pair.1 ∈ d.vocabulary.map Prod.fst :=
        List.mem_map_of_mem (List.mem_reverse.1 hpair)
      obtain ⟨s', hs'⟩ := SymbolTable.exists_name?_of_mem (hkeys.mem_toList hkey)
      rw [SymbolTable.name?_inj hname (hext.name? hs'), hs'] at hs
      cases hs

namespace Loaded

variable {d : Description} {g : Grammar} {s : Symbol} {name : String}

/-- A symbol that stands for a token means what the token means. -/
theorem meaning?_of_name? (h : Loaded d g) (hname : g.symbols.name? s = some name) :
    g.meaning? s = d.meaning? name := by
  rw [h.meaning?_eq, hname, Option.bind_some]

/-- The productions of a symbol stand for the rules of its token, in their order. -/
theorem forall₂_productions (h : Loaded d g) (hname : g.symbols.name? s = some name) :
    List.Forall₂ (fun (rule : Rule) (p : Production) =>
        g.symbols.Spells p.replacement rule.replacement.toList ∧ p.weight = rule.weight)
      (d.rulesFor name) (g.productions s) := by
  obtain ⟨numbered, hgroup, hrepresents, -⟩ := h.represents
  rw [productions_of_group hgroup]
  exact forall₂_productionsAmong hrepresents hname

/-- A symbol without a token has no rules. -/
theorem productions_of_name?_eq_none (h : Loaded d g) (hname : g.symbols.name? s = none) :
    g.productions s = [] := by
  obtain ⟨numbered, hgroup, hrepresents, -⟩ := h.represents
  rw [productions_of_group hgroup]
  exact productionsAmong_of_name?_eq_none hrepresents hname

/-- Where no token has two rules, no symbol has two productions. -/
theorem length_productions_lt (h : Loaded d g) (hrules : ∀ name, (d.rulesFor name).length ≤ 1)
    (s : Symbol) : (g.productions s).length < 2 := by
  cases hname : g.symbols.name? s with
  | none =>
    rw [h.productions_of_name?_eq_none hname]
    exact Nat.zero_lt_two
  | some name =>
    rw [← (h.forall₂_productions hname).length_eq]
    exact Nat.lt_succ_of_le (hrules name)

/-- Every production stands for a rule. -/
theorem exists_rule_of_mem (h : Loaded d g) {p : Production} (hp : p ∈ g.productions s) :
    ∃ rule ∈ d.rules, g.symbols.name? s = some rule.symbol ∧
      g.symbols.Spells p.replacement rule.replacement.toList := by
  cases hname : g.symbols.name? s with
  | none =>
    rw [h.productions_of_name?_eq_none hname] at hp
    cases hp
  | some name =>
    obtain ⟨rule, hrule, hspells, -⟩ := exists_mem_left_of_forall₂ (h.forall₂_productions hname) hp
    obtain ⟨hmem, rfl⟩ := Description.mem_rulesFor.1 hrule
    exact ⟨rule, hmem, rfl, hspells⟩

/-- No symbol is replaced by nothing. -/
theorem replacement_ne_nil (h : Loaded d g) {p : Production} (hp : p ∈ g.productions s) :
    p.replacement ≠ [] := by
  obtain ⟨rule, hrule, -, hspells⟩ := h.exists_rule_of_mem hp
  exact fun hnil => (h.isUsable rule hrule).1 (hspells.eq_nil_iff.1 hnil)

end Loaded

/-! ### Descriptions that can be loaded -/

/-- **What a description has to be like** for there to be a grammar. -/
structure IsLoadable (d : Description) : Prop where
  admits : SymbolTable.empty.Admits d.tokens
  start_ne_nil : d.start.toList ≠ []
  isUsable : ∀ rule ∈ d.rules, IsUsable rule
  weightFor_le : ∀ rule ∈ d.rules, d.weightFor rule.symbol ≤ maxWeight

instance (d : Description) : Decidable (IsLoadable d) :=
  decidable_of_iff
    (SymbolTable.empty.Admits d.tokens ∧ d.start.toList ≠ [] ∧ (∀ rule ∈ d.rules, IsUsable rule) ∧
      ∀ rule ∈ d.rules, d.weightFor rule.symbol ≤ maxWeight)
    ⟨fun ⟨hadmits, hstart, husable, hweights⟩ => ⟨hadmits, hstart, husable, hweights⟩,
      fun h => ⟨h.admits, h.start_ne_nil, h.isUsable, h.weightFor_le⟩⟩

/-- A token without rules has no weights, so it is enough to look at the symbols of rules. -/
theorem IsLoadable.weightFor_le_maxWeight {d : Description} (h : IsLoadable d) (name : String) :
    d.weightFor name ≤ maxWeight := by
  by_cases hrule : ∃ rule ∈ d.rules, rule.symbol = name
  · obtain ⟨rule, hmem, rfl⟩ := hrule
    exact h.weightFor_le rule hmem
  · have hnil : d.rulesFor name = [] := by
      rw [List.eq_nil_iff_forall_not_mem]
      intro rule hmem
      exact hrule ⟨rule, Description.mem_rulesFor.1 hmem⟩
    rw [Description.weightFor, hnil]
    exact Nat.zero_le _

/-- A grammar fits only descriptions that can be loaded. -/
theorem Loaded.isLoadable {d : Description} {g : Grammar} (h : Loaded d g) : IsLoadable d where
  admits := h.enrolled.admits
  start_ne_nil hnil := h.start_ne_nil (h.start_spells.eq_nil_iff.2 hnil)
  isUsable := h.isUsable
  weightFor_le := by
    intro rule hrule
    obtain ⟨numbered, -, hrepresents, hweights⟩ := h.represents
    obtain ⟨p, -, hp⟩ := exists_mem_right_of_forall₂ hrepresents hrule
    rw [← weightAmong_eq hrepresents hp.name?_eq]
    exact hweights p.1

/-- A description that is like this has a grammar. -/
theorem IsLoadable.exists_ofDescription {d : Description} (h : IsLoadable d) :
    ∃ g, ofDescription d = .ok g := by
  have hadmits := h.admits
  rw [Description.tokens] at hadmits
  -- The keys, the start word and the rules are numbered in this order.
  obtain ⟨t₀, meanings, hlexicon⟩ := exists_bindAll hadmits.left.left ∅
  have hkeys := (enrolled_of_bindAll hlexicon).1
  obtain ⟨start, t₁, hstart⟩ := SymbolTable.exists_internTokens (hadmits.left.right hkeys)
  have hword := SymbolTable.numbered_of_internTokens hstart
  obtain ⟨numbered, t, hnumber⟩ :=
    exists_numberRules h.isUsable (hadmits.right (hkeys.append hword.toEnrolled))
  obtain ⟨-, -, hrepresents⟩ := enrolled_of_numberRules hnumber
  have hstartNe : start ≠ [] := fun hnil => h.start_ne_nil (hword.spells.eq_nil_iff.1 hnil)
  have hoverflow : overflow? numbered (group numbered) = none := by
    rw [overflow?_eq_none_iff]
    intro s
    cases hname : t.name? s with
    | some name =>
      rw [weightAmong_eq hrepresents hname]
      exact h.weightFor_le_maxWeight name
    | none =>
      rw [weightAmong, productionsAmong_of_name?_eq_none hrepresents hname]
      exact Nat.zero_le _
  exact ⟨⟨t, start, group numbered, meanings⟩, ofDescription_eq_ok_iff.2
    ⟨t₀, t₁, numbered, hlexicon, hstart, hstartNe, hnumber, rfl, hoverflow⟩⟩

/-- **Loading succeeds** exactly for the descriptions that can be loaded. -/
theorem exists_ofDescription_iff {d : Description} :
    (∃ g, ofDescription d = .ok g) ↔ IsLoadable d := by
  constructor
  · rintro ⟨g, hg⟩
    exact (loaded_of_ofDescription hg).isLoadable
  · exact IsLoadable.exists_ofDescription

end Grammar

end LSystem
