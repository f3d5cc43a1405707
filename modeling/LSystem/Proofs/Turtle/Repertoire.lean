import LSystem.Proofs.Pairs
import LSystem.Turtle.Repertoire

/-!
# What a repertoire has been assigned

Assigning operations one after the other leaves the last operation of every symbol
(`operation_setAll`). The meanings of a grammar come in the order in which a hash table gives them
out, which nobody knows. But a hash table gives out each symbol once, so the order does not matter
(`operation_setMeanings`).
-/

namespace LSystem.Turtle.Repertoire

/-- The operation of a symbol is the last one it was assigned, and otherwise what it was before. -/
theorem operation_setAll (r : Repertoire) (pairs : List (Symbol × Operation)) (s : Symbol) :
    (r.setAll pairs).operation s = (pairs.reverse.lookup s).getD (r.operation s) := by
  induction pairs generalizing r with
  | nil => rfl
  | cons pair pairs ih =>
    obtain ⟨s', op⟩ := pair
    change ((r.set s' op).setAll pairs).operation s = _
    rw [ih, operation_set, List.reverse_cons, List.lookup_append]
    cases hlast : pairs.reverse.lookup s with
    | some op' => rfl
    | none =>
      -- Nothing is assigned later, so it is the first pair or what there was before.
      rw [Option.none_or, Option.getD_none]
      by_cases hs : s = s'
      · rw [if_pos hs, hs, List.lookup_cons_self, Option.getD_some]
      · rw [if_neg hs, List.lookup_cons, beq_false_of_ne hs]
        rfl

/-- If no symbol is assigned anything twice, the order does not matter. -/
theorem operation_setAll_of_nodup (r : Repertoire) {pairs : List (Symbol × Operation)}
    (hnodup : (pairs.map Prod.fst).Nodup) (s : Symbol) :
    (r.setAll pairs).operation s = (pairs.lookup s).getD (r.operation s) := by
  rw [operation_setAll, ← lookup_of_perm (List.reverse_perm pairs).symm hnodup]

@[simp] theorem operation_empty (s : Symbol) : Repertoire.empty.operation s = .ignore := rfl

/-- The symbols that mean something are given out once each. -/
private theorem nodup_keys_meanings (g : Grammar) : (g.meanings.toList.map Prod.fst).Nodup := by
  rw [List.Nodup, List.pairwise_map]
  exact g.meanings.distinct_keys_toList.imp fun hne heq => by simp [heq] at hne

/-- The meanings of a grammar are assigned in whatever order they come. -/
theorem operation_setAll_of_perm (r : Repertoire) {g : Grammar} {pairs : List (Symbol × Operation)}
    (hperm : pairs.Perm g.meanings.toList) (s : Symbol) :
    (r.setAll pairs).operation s = (g.meaning? s).getD (r.operation s) := by
  have hnodup : (pairs.map Prod.fst).Nodup :=
    (hperm.map Prod.fst).nodup_iff.2 (nodup_keys_meanings g)
  have hlookup : pairs.lookup s = g.meaning? s := by
    ext op
    rw [lookup_eq_some_iff_mem hnodup, hperm.mem_iff,
      Std.HashMap.mem_toList_iff_getElem?_eq_some, Grammar.meaning?]
  rw [operation_setAll_of_nodup r hnodup, hlookup]

/-- **A new turtle does what its grammar means,** and ignores symbols without a meaning. -/
theorem operation_setMeanings (g : Grammar) (s : Symbol) :
    (Repertoire.empty.setMeanings g).operation s = (g.meaning? s).getD .ignore :=
  operation_setAll_of_perm .empty (List.Perm.refl g.meanings.toList) s

end LSystem.Turtle.Repertoire
