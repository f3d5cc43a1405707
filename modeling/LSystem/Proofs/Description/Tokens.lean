import LSystem.Chance.Weighted
import LSystem.Description.Basic
import LSystem.Proofs.Pairs

/-!
# Descriptions, token by token

What a description says of a single token: which rules it has, what their weights add up to, and
what the turtle makes of it. A token that is bound by the description loses its conventional
meaning. In the list of all keys the bindings come last, so there the last pair of a token counts
(`lookup_reverse_vocabulary`).
-/

namespace LSystem

open Turtle Chance

/-- The tokens of a rule. -/
def Rule.tokens (rule : Rule) : List String := rule.symbol :: rule.replacement.toList

namespace Description

/-- What keys are bound to, from the first to the last; a key that comes again is bound anew. -/
def vocabulary (d : Description) : List (String × Operation) :=
  Operation.standard ++ d.bindings.toList

/-- The tokens of a description, in the order in which they are numbered. -/
def tokens (d : Description) : List String :=
  d.vocabulary.map Prod.fst ++ d.start.toList ++ d.rules.flatMap Rule.tokens

/-- The meaning of a token: what the description binds it to, and otherwise the conventional
one. -/
def meaning? (d : Description) (name : String) : Option Operation :=
  (d.bindings.get? name).or (Operation.standard.lookup name)

/-- The rules for a token, in their order. -/
def rulesFor (d : Description) (name : String) : List Rule :=
  d.rules.filter fun rule => rule.symbol = name

theorem mem_rulesFor {d : Description} {name : String} {rule : Rule} :
    rule ∈ d.rulesFor name ↔ rule ∈ d.rules ∧ rule.symbol = name := by
  rw [rulesFor, List.mem_filter, decide_eq_true_iff]

/-- The sum of the weights for a token. -/
def weightFor (d : Description) (name : String) : Nat := sumOf ((d.rulesFor name).map (·.weight))

/-- The keys of bindings differ. -/
theorem nodup_keys_bindings (bs : Bindings) : (bs.toList.map Prod.fst).Nodup := by
  rw [List.Nodup, List.pairwise_map]
  exact bs.sorted.imp fun hlt => String.ne_of_lt hlt

theorem nodup_keys_standard : (Operation.standard.map Prod.fst).Nodup := by decide

/-- What a key is bound to last is its meaning. -/
theorem lookup_reverse_vocabulary (d : Description) (name : String) :
    d.vocabulary.reverse.lookup name = d.meaning? name := by
  rw [vocabulary, List.reverse_append, List.lookup_append, meaning?, Bindings.get?,
    lookup_of_perm (List.reverse_perm _).symm (nodup_keys_bindings d.bindings),
    lookup_of_perm (List.reverse_perm _).symm nodup_keys_standard]

end Description

end LSystem
