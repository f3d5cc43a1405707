import LSystem.Description.Json
import LSystem.Grammar.Basic

/-!
# From descriptions to grammars

The tokens of a description are numbered in a fixed order: the conventional symbols, the
keys of the bindings, the start word, and for every rule its symbol and its replacement.
On the way everything is looked at once, and the first defect ends the loading; the
weights are summed when all rules have been read.
-/

namespace LSystem.Grammar

/-! ### Meanings -/

/-- Meanings by symbol. -/
abbrev Meanings := Std.HashMap Symbol Turtle.Operation

/-- Numbers keys and binds them, from the first to the last; a key that has been bound is
bound anew. -/
def bindAll (t : SymbolTable) (meanings : Meanings) :
    List (String × Turtle.Operation) → Except Defect (SymbolTable × Meanings)
  | [] => .ok (t, meanings)
  | (key, op) :: pairs =>
    match t.internToken key with
    | (.ok s, t) => bindAll t (meanings.insert s op) pairs
    | (.error d, _) => .error d

/-- The conventional meanings and those of a description, which come later and therefore
count. -/
def lexicon (bindings : Bindings) : Except Defect (SymbolTable × Meanings) :=
  bindAll .empty ∅ (Turtle.Operation.standard ++ bindings.toList)

/-! ### Rules -/

/-- Numbers the tokens of a rule. -/
def numberRule (t : SymbolTable) (rule : Rule) :
    Except Defect ((Symbol × Production) × SymbolTable) := do
  let (s, t) := t.internToken rule.symbol
  let s ← s
  let (replacement, t) ← t.internTokens rule.replacement.toList
  if replacement.isEmpty then throw (.noReplacement rule.symbol)
  if rule.weight = 0 then throw (.zeroWeight rule.symbol)
  return ((s, ⟨replacement, rule.weight⟩), t)

/-- Numbers the tokens of several rules; those of the rules in `done`, the last one first,
have been numbered before. -/
def numberOnto (done : List (Symbol × Production)) (t : SymbolTable) :
    List Rule → Except Defect (List (Symbol × Production) × SymbolTable)
  | [] => .ok (done.reverse, t)
  | rule :: rules =>
    match numberRule t rule with
    | .ok (p, t) => numberOnto (p :: done) t rules
    | .error d => .error d

/-- Numbers the tokens of all rules. -/
def numberRules (t : SymbolTable) (rules : List Rule) :
    Except Defect (List (Symbol × Production) × SymbolTable) := numberOnto [] t rules

/-- Puts a production in front of those of its symbol. -/
def addRule (rule : Symbol × Production)
    (rules : Std.HashMap Symbol (Production × List Production)) :
    Std.HashMap Symbol (Production × List Production) :=
  rules.insert rule.1
    (rule.2, match rules[rule.1]? with
      | some (first, others) => first :: others
      | none => [])

/-- The productions of every symbol, in the order of the rules. -/
def group (rules : List (Symbol × Production)) : Std.HashMap Symbol RuleSet :=
  (rules.foldr addRule ∅).map fun _ productions => .ofList productions.1 productions.2

/-- The first symbol whose weights add up to too much. -/
def overflow? (rules : List (Symbol × Production)) (grouped : Std.HashMap Symbol RuleSet) :
    Option Symbol :=
  let tooHeavy := grouped.filter fun _ r => maxWeight < r.totalWeight
  (rules.find? fun rule => tooHeavy.contains rule.1).map (·.1)

/-! ### Grammars -/

/-- **The grammar of a description.** -/
def ofDescription (d : Description) : Except Defect Grammar := do
  let (t, meanings) ← lexicon d.bindings
  let (start, t) ← t.internTokens d.start.toList
  if start.isEmpty then throw .emptyStart
  let (numbered, t) ← numberRules t d.rules
  let rules := group numbered
  -- A sum of weights is known only now that all rules have been read.
  match overflow? numbered rules with
  | some s => throw (.weightOverflow ((t.name? s).getD ""))
  | none => return ⟨t, start, rules, meanings⟩

/-- The grammar that a text describes. -/
def ofText (text : String) : Except Defect Grammar :=
  match Description.ofText text with
  | .ok d => ofDescription d
  | .error f => .error (.unreadable f)

end LSystem.Grammar
