import LSystem.Grammar.Basic
import LSystem.Grammar.Word
import LSystem.Turtle.Walk

/-!
# What symbols mean to a turtle

A repertoire assigns operations to symbols, as a table that is as long as it has to be;
symbols beyond its end are ignored. `operation_set` is the law of assignment: what was
assigned last to a symbol counts, and the other symbols keep what they had.
-/

namespace LSystem.Turtle

/-- The operations of symbols, by number. -/
structure Repertoire where
  operations : Array Operation
deriving DecidableEq, Repr

namespace Repertoire

/-- All symbols are ignored. -/
def empty : Repertoire := ⟨#[]⟩

/-- The operation of a symbol. -/
def operation (r : Repertoire) (s : Symbol) : Operation :=
  (r.operations[s.toNat]?).getD Operation.ignore

/-- Assigns an operation to a symbol. -/
def set (r : Repertoire) (s : Symbol) (op : Operation) : Repertoire :=
  let missing := s.toNat + 1 - r.operations.size
  ⟨(r.operations ++ Array.replicate missing Operation.ignore).setIfInBounds s.toNat op⟩

/-- Assigns several operations, from the first to the last. -/
def setAll (r : Repertoire) (pairs : List (Symbol × Operation)) : Repertoire :=
  pairs.foldl (fun r p => r.set p.1 p.2) r

/-- Assigns their operations to the conventional symbols that have numbers. -/
def setStandard (r : Repertoire) (t : SymbolTable) : Repertoire :=
  r.setAll (Operation.standard.filterMap fun p => (t.symbol? p.1).map (·, p.2))

/-- Assigns the meanings of a grammar. -/
def setMeanings (r : Repertoire) (g : Grammar) : Repertoire := r.setAll g.meanings.toList

/-- What was assigned last counts, and nothing else changes. -/
theorem operation_set (r : Repertoire) (s s' : Symbol) (op : Operation) :
    (r.set s op).operation s' = if s' = s then op else r.operation s' := by
  unfold set operation
  simp only [Array.getElem?_setIfInBounds, Array.size_append, Array.size_replicate]
  by_cases h : s' = s
  · -- The table has been made long enough for the symbol.
    subst h
    have : s'.toNat < r.operations.size + (s'.toNat + 1 - r.operations.size) := by omega
    simp [this]
  · -- Places that have been added mean nothing, as places beyond the end did.
    have hne : s.toNat ≠ s'.toNat := fun h' => h (UInt16.toNat.inj h').symm
    simp only [hne, ↓reduceIte, h, Array.getElem?_append, Array.getElem?_replicate]
    split
    · rfl
    · next hlt =>
      rw [Array.getElem?_eq_none (Nat.not_lt.1 hlt)]
      split <;> rfl

end Repertoire

/-- **The trace of a word.** -/
def trace (settings : Settings) (r : Repertoire) (w : Word) : Except Error Curve.Trace :=
  walk settings (w.map r.operation)

end LSystem.Turtle
