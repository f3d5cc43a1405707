import LSystem.Chance.Weighted
import LSystem.Symbol.Table
import LSystem.Turtle.Operation

/-!
# Grammars

A grammar is a description whose tokens have been numbered: the start word, the rules by
symbol, and the meanings of the symbols. A symbol with rules is replaced in every round; a
symbol with a meaning and without rules is terminal; a symbol with neither is unbound, and
no word with such a symbol can be expanded or drawn.
-/

namespace LSystem

open Chance

/-- What can take the place of a symbol, and how often it does. -/
structure Production where
  replacement : List Symbol
  weight : UInt32
deriving DecidableEq, Repr

/-- What chooses among productions, if there is a choice. -/
def samplerFor? (productions : Array Production) : Option Sampler :=
  if productions.size < 2 then none
  else some (.ofWeights (productions.toList.map (·.weight)))

/-- The productions of a symbol, at least one, in the order of their rules. What chooses among
them is made once. -/
structure RuleSet where
  productions : Array Production
  size_pos : 0 < productions.size
  sampler? : Option Sampler
  sampler?_eq : sampler? = samplerFor? productions

namespace RuleSet

/-- The rule set of a production and those that follow it. -/
def ofList (first : Production) (others : List Production) : RuleSet where
  productions := (first :: others).toArray
  size_pos := by simp
  sampler? := samplerFor? (first :: others).toArray
  sampler?_eq := rfl

@[simp] theorem productions_ofList (first : Production) (others : List Production) :
    (ofList first others).productions = (first :: others).toArray := rfl

/-- There is a production. -/
theorem toList_productions_ne_nil (r : RuleSet) : r.productions.toList ≠ [] := by
  rw [← List.length_pos_iff, Array.length_toList]
  exact r.size_pos

/-- The production that comes first. -/
def first (r : RuleSet) : Production :=
  have := r.size_pos
  r.productions[0]

/-- The sum of the weights. -/
def totalWeight (r : RuleSet) : Nat := sumOf (r.productions.toList.map (·.weight))

/-- **Chooses a production.** A symbol with one production draws no random number. -/
def choose (r : RuleSet) (g : Generator) : Production × Generator :=
  match r.sampler? with
  | none => (r.first, g)
  | some s =>
    let drawn := s.sample g
    (r.productions.getD drawn.1 r.first, drawn.2)

/-- What is chosen is one of the productions. -/
theorem choose_mem (r : RuleSet) (g : Generator) : (r.choose g).1 ∈ r.productions := by
  have hfirst : r.first ∈ r.productions := Array.getElem_mem r.size_pos
  unfold choose
  split
  · exact hfirst
  · next s _ =>
    simp only [Array.getD_eq_getD_getElem?]
    cases h : r.productions[(s.sample g).1]? with
    | none => exact hfirst
    | some p => exact Array.mem_of_getElem? h

end RuleSet

/-- **A grammar.** -/
structure Grammar where
  symbols : SymbolTable
  start : List Symbol
  rules : Std.HashMap Symbol RuleSet
  meanings : Std.HashMap Symbol Turtle.Operation

namespace Grammar

/-- The rules for a symbol, if it has any. -/
def ruleSet? (g : Grammar) (s : Symbol) : Option RuleSet := g.rules[s]?

/-- What can take the place of a symbol, in the order of the rules. -/
def productions (g : Grammar) (s : Symbol) : List Production :=
  match g.ruleSet? s with
  | some r => r.productions.toList
  | none => []

/-- A symbol has a rule set if it has productions. -/
theorem ruleSet?_eq_none_iff (g : Grammar) (s : Symbol) :
    g.ruleSet? s = none ↔ g.productions s = [] := by
  rw [productions]
  cases g.ruleSet? s with
  | none => simp
  | some r => simpa using r.toList_productions_ne_nil

/-- What a symbol means to the turtle. -/
def meaning? (g : Grammar) (s : Symbol) : Option Turtle.Operation := g.meanings[s]?

/-- Whether a symbol has a meaning and is never replaced. -/
def isTerminal (g : Grammar) (s : Symbol) : Bool :=
  (g.ruleSet? s).isNone && (g.meaning? s).isSome

/-- Whether a symbol has a rule or a meaning. -/
def isBound (g : Grammar) (s : Symbol) : Bool := (g.ruleSet? s).isSome || (g.meaning? s).isSome

/-- A symbol is bound if it is terminal or has a rule. -/
theorem isBound_eq (g : Grammar) (s : Symbol) :
    g.isBound s = (g.isTerminal s || (g.ruleSet? s).isSome) := by
  unfold isBound isTerminal
  cases g.ruleSet? s <;> simp

end Grammar

end LSystem
