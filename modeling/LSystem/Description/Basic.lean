import LSystem.Settings
import LSystem.Text.Character
import LSystem.Turtle.Operation

/-!
# Descriptions of ribbons

A description is what an author writes down: the word that the expansion starts from, the
rules, the bindings that tell the turtle what a symbol means, the number of rounds, the
seed of random choices, and the settings of turtle and curves. Nothing in it has been
looked at yet; a rule may be empty and a token may be no token.

The bindings of a description are kept in the order of their keys, each key once
(`Bindings`), so that two descriptions which bind the same keys to the same operations
are equal.
-/

namespace LSystem

/-! ### Token lists -/

/-- A list of tokens as it is written. -/
inductive TokenList where
  /-- Every character that is not white space is a token. -/
  | text (s : String)
  /-- The tokens one by one, as they have to be written when they are longer. -/
  | tokens (ts : List String)
deriving DecidableEq, Repr

/-- The tokens of a list. -/
def TokenList.toList : TokenList → List String
  | .text s => (s.toList.filter fun c => !Text.isBlank c).map String.singleton
  | .tokens ts => ts

/-! ### Bindings -/

/-- What symbols mean to the turtle: operations by key, in the order of the keys. -/
structure Bindings where
  toList : List (String × Turtle.Operation)
  sorted : toList.Pairwise fun a b => a.1 < b.1
deriving DecidableEq

namespace Bindings

/-- Puts a pair into a list in the order of the keys, in place of a pair with its key. -/
def insertSorted (key : String) (op : Turtle.Operation) :
    List (String × Turtle.Operation) → List (String × Turtle.Operation)
  | [] => [(key, op)]
  | b :: bs =>
    if key < b.1 then (key, op) :: b :: bs
    else if key = b.1 then (key, op) :: bs
    else b :: insertSorted key op bs

private theorem mem_insertSorted {key : String} {op : Turtle.Operation}
    {bs : List (String × Turtle.Operation)} {b : String × Turtle.Operation}
    (h : b ∈ insertSorted key op bs) : b = (key, op) ∨ b ∈ bs := by
  induction bs with
  | nil => simpa [insertSorted] using h
  | cons a bs ih =>
    rw [insertSorted] at h
    -- The pair is put in front of an entry, in its place, or behind it.
    split at h
    · simpa using h
    · split at h
      · rcases List.mem_cons.1 h with h | h
        · exact .inl h
        · exact .inr (List.mem_cons_of_mem _ h)
      · rcases List.mem_cons.1 h with h | h
        · exact .inr (h ▸ List.mem_cons_self)
        · exact (ih h).imp_right (List.mem_cons_of_mem _)

private theorem pairwise_insertSorted (key : String) (op : Turtle.Operation)
    {bs : List (String × Turtle.Operation)} (h : bs.Pairwise fun a b => a.1 < b.1) :
    (insertSorted key op bs).Pairwise fun a b => a.1 < b.1 := by
  induction bs with
  | nil => simp [insertSorted]
  | cons a bs ih =>
    have ⟨ha, hbs⟩ := List.pairwise_cons.1 h
    rw [insertSorted]
    -- The three places are those of the definition; only behind the entry the order is at stake.
    split
    · next hlt =>
      refine List.pairwise_cons.2 ⟨fun b hb => ?_, h⟩
      rcases List.mem_cons.1 hb with rfl | hb
      · exact hlt
      · exact String.lt_trans hlt (ha b hb)
    · next hnlt =>
      split
      · next heq => exact List.pairwise_cons.2 ⟨fun b hb => heq ▸ ha b hb, hbs⟩
      · next hne =>
        refine List.pairwise_cons.2 ⟨fun b hb => ?_, ih hbs⟩
        rcases mem_insertSorted hb with rfl | hb
        · exact Std.lt_of_le_of_ne (Std.not_lt.1 hnlt) fun h => hne h.symm
        · exact ha b hb

/-- No bindings. -/
def empty : Bindings := ⟨[], .nil⟩

/-- Binds a key, in place of what it was bound to. -/
def insert (bs : Bindings) (key : String) (op : Turtle.Operation) : Bindings :=
  ⟨insertSorted key op bs.toList, pairwise_insertSorted key op bs.sorted⟩

/-- The bindings of a list; of equal keys the last one counts. -/
def ofList (pairs : List (String × Turtle.Operation)) : Bindings :=
  pairs.foldl (fun bs p => bs.insert p.1 p.2) empty

/-- The operation of a key. -/
def get? (bs : Bindings) (key : String) : Option Turtle.Operation := bs.toList.lookup key

end Bindings

/-! ### Descriptions -/

/-- A rule as it is written: a symbol, what takes its place, and how often the rule is chosen
in comparison with the other rules for the symbol. -/
structure Rule where
  symbol : String
  replacement : TokenList
  weight : UInt32 := 1
deriving DecidableEq, Repr

/-- **A description of a ribbon.** -/
structure Description where
  /-- The word that the expansion starts from. -/
  start : TokenList
  rules : List Rule := []
  /-- What symbols mean, on top of their conventional meanings. -/
  bindings : Bindings := .empty
  /-- The number of rounds. -/
  generations : UInt32 := 0
  seed : UInt64 := 0
  turtle : Turtle.Settings := {}
  curve : Curve.Settings := {}
deriving DecidableEq

end LSystem
