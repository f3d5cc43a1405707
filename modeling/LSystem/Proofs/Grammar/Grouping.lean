import LSystem.Grammar.Loading

/-!
# Rules by symbol

Loading reads rules as a list and keeps them by symbol. Both hold the same productions in the same
order: the rule set of a symbol holds the productions that stand behind the symbol in the list
(`getElem?_group`). The productions are put in front of each other from the last rule to the first,
so the induction is on the list of rules and follows the loop.

A sum of weights that is too great is looked for in the rule sets, but only at symbols that have a
rule. That is enough, since the other symbols have no weights (`overflow?_eq_none_iff`).
-/

namespace LSystem.Grammar

open Chance

/-- The productions of a symbol among rules, in their order. -/
def productionsAmong (rules : List (Symbol × Production)) (s : Symbol) : List Production :=
  (rules.filter fun rule => rule.1 = s).map (·.2)

/-- The sum of the weights for a symbol among rules. -/
def weightAmong (rules : List (Symbol × Production)) (s : Symbol) : Nat :=
  sumOf ((productionsAmong rules s).map (·.weight))

/-- The rule set of productions, if there are any. -/
def ruleSetOf? : List Production → Option RuleSet
  | [] => none
  | first :: others => some (.ofList first others)

/-- A production and those that follow it, if there are any. -/
def firstAndOthers? : List Production → Option (Production × List Production)
  | [] => none
  | first :: others => some (first, others)

private theorem productionsAmong_cons_self (s : Symbol) (p : Production)
    (rules : List (Symbol × Production)) :
    productionsAmong ((s, p) :: rules) s = p :: productionsAmong rules s := by
  rw [productionsAmong, List.filter_cons_of_pos (by simp), List.map_cons, productionsAmong]

private theorem productionsAmong_cons_of_ne {rule : Symbol × Production} {s : Symbol}
    (h : rule.1 ≠ s)
    (rules : List (Symbol × Production)) :
    productionsAmong (rule :: rules) s = productionsAmong rules s := by
  rw [productionsAmong, List.filter_cons_of_neg (by simpa using h), productionsAmong]

/-- Every symbol gets the productions of its rules. -/
private theorem getElem?_foldr_addRule (rules : List (Symbol × Production)) (s : Symbol) :
    (rules.foldr addRule ∅)[s]? = firstAndOthers? (productionsAmong rules s) := by
  induction rules with
  | nil => exact Std.HashMap.getElem?_empty
  | cons rule rules ih =>
    obtain ⟨s', p⟩ := rule
    rw [List.foldr_cons, addRule, Std.HashMap.getElem?_insert]
    by_cases h : s' = s
    · subst h
      rw [if_pos (beq_self_eq_true s'), productionsAmong_cons_self, ih]
      -- What has been put together so far is the list behind the new production.
      cases productionsAmong rules s' <;> rfl
    · rw [if_neg (by simpa using h), productionsAmong_cons_of_ne h, ih]

/-- **A symbol has the productions of its rules.** -/
theorem getElem?_group (rules : List (Symbol × Production)) (s : Symbol) :
    (group rules)[s]? = ruleSetOf? (productionsAmong rules s) := by
  rw [group, Std.HashMap.getElem?_map, getElem?_foldr_addRule]
  cases productionsAmong rules s <;> rfl

theorem productions_of_group {g : Grammar} {rules : List (Symbol × Production)}
    (h : g.rules = group rules) (s : Symbol) : g.productions s = productionsAmong rules s := by
  rw [productions, ruleSet?, h, getElem?_group]
  cases productionsAmong rules s <;> rfl

/-! ### Sums of weights -/

/-- A rule set is too heavy if the weights for its symbol add up to too much. -/
theorem contains_filter_group (rules : List (Symbol × Production)) (s : Symbol) :
    ((group rules).filter fun _ r => maxWeight < r.totalWeight).contains s = true ↔
      maxWeight < weightAmong rules s := by
  rw [← Std.HashMap.isSome_getElem?_eq_contains, Std.HashMap.getElem?_filter', getElem?_group,
    weightAmong]
  cases productionsAmong rules s with
  | nil =>
    -- No rule set, and no weights.
    simp [ruleSetOf?, sumOf]
  | cons p ps =>
    rw [ruleSetOf?, Option.filter_some, RuleSet.totalWeight, RuleSet.productions_ofList]
    split <;> simp_all

/-- **Nothing is too heavy** if no symbol is. -/
theorem overflow?_eq_none_iff (rules : List (Symbol × Production)) :
    overflow? rules (group rules) = none ↔ ∀ s, weightAmong rules s ≤ maxWeight := by
  rw [overflow?, Option.map_eq_none_iff, List.find?_eq_none]
  -- The rules are searched in their order, but whether one is found does not depend on it.
  constructor
  · intro h s
    by_cases hs : ∃ p, (s, p) ∈ rules
    · obtain ⟨p, hp⟩ := hs
      exact Nat.le_of_not_lt fun hlt => h (s, p) hp ((contains_filter_group rules s).2 hlt)
    · -- A symbol without rules has no weights.
      have hnil : productionsAmong rules s = [] := by
        rw [productionsAmong, List.map_eq_nil_iff, List.filter_eq_nil_iff]
        rintro ⟨s', p⟩ hmem hs'
        exact hs ⟨p, of_decide_eq_true hs' ▸ hmem⟩
      rw [weightAmong, hnil]
      exact Nat.zero_le _
  · intro h rule _ hcontains
    exact absurd ((contains_filter_group rules rule.1).1 hcontains) (Nat.not_lt.2 (h rule.1))

end LSystem.Grammar
