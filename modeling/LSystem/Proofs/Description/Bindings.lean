import LSystem.Proofs.Description.Tokens
import Mathlib.Data.List.Induction

/-!
# Bindings and their operations

Bindings are a list in the order of the keys, but nothing of the list can be seen except the
operation of each key: bindings with the same operations are equal (`Bindings.ext_get?`). Binding a
key changes its operation and no other one, so bindings that are made of a list of pairs give each
key the operation of its last pair (`Bindings.ofList_eq_iff`).
-/

namespace LSystem.Bindings

open Turtle

variable {bs bs' : Bindings} {pairs : List (String × Operation)}

theorem get?_eq_some_iff {key : String} {op : Operation} :
    bs.get? key = some op ↔ (key, op) ∈ bs.toList :=
  lookup_eq_some_iff_mem (Description.nodup_keys_bindings bs)

/-- **Bindings are what they bind.** -/
theorem ext_get? (h : ∀ key, bs.get? key = bs'.get? key) : bs = bs' := by
  have hperm : bs.toList.Perm bs'.toList := by
    have hnodup (bs : Bindings) : bs.toList.Nodup :=
      .of_map Prod.fst (Description.nodup_keys_bindings bs)
    refine (List.perm_ext_iff_of_nodup (hnodup bs) (hnodup bs')).2 fun ⟨key, op⟩ => ?_
    rw [← get?_eq_some_iff, ← get?_eq_some_iff, h key]
  -- Sorted lists with the same members are one list.
  have hlist : bs.toList = bs'.toList := by
    refine hperm.eq_of_pairwise (fun a b _ _ hab hba => ?_) bs.sorted bs'.sorted
    exact absurd (String.lt_trans hab hba) (String.lt_irrefl _)
  obtain ⟨l, _⟩ := bs
  cases hlist
  rfl

private theorem lookup_insertSorted (key : String) (op : Operation) (bs : List (String × Operation))
    (key' : String) :
    (insertSorted key op bs).lookup key' = if key' = key then some op else bs.lookup key' := by
  induction bs with
  | nil => rw [insertSorted, lookup_cons_eq_ite]
  | cons b bs ih =>
    rw [insertSorted]
    split
    · rw [lookup_cons_eq_ite]
    · split
      · next heq =>
        -- The pair that is replaced had the same key.
        rw [lookup_cons_eq_ite, lookup_cons_eq_ite, heq]
        split <;> rfl
      · next hne =>
        rw [lookup_cons_eq_ite, lookup_cons_eq_ite, ih]
        by_cases hkey : key' = b.1
        · have hnot : key' ≠ key := fun h => hne (h.symm.trans hkey)
          rw [if_pos hkey, if_pos hkey, if_neg hnot]
        · rw [if_neg hkey, if_neg hkey]

/-- Binding a key changes its operation and no other one. -/
theorem get?_insert (bs : Bindings) (key : String) (op : Operation) (key' : String) :
    (bs.insert key op).get? key' = if key' = key then some op else bs.get? key' :=
  lookup_insertSorted key op bs.toList key'

/-- **Of equal keys the last one counts.** -/
theorem get?_ofList (pairs : List (String × Operation)) (key : String) :
    (ofList pairs).get? key = pairs.reverse.lookup key := by
  induction pairs using List.reverseRecOn with
  | nil => rfl
  | append_singleton pairs p ih =>
    have hlast : ofList (pairs ++ [p]) = (ofList pairs).insert p.1 p.2 := by
      rw [ofList, List.foldl_append]
      rfl
    rw [hlast, get?_insert, ih, List.reverse_concat, lookup_cons_eq_ite]

theorem ofList_eq_iff : ofList pairs = bs ↔ ∀ key, bs.get? key = pairs.reverse.lookup key := by
  constructor
  · rintro rfl key
    exact get?_ofList pairs key
  · intro h
    refine ext_get? fun key => ?_
    rw [get?_ofList, h]

/-- Bindings can be made of their own list. -/
theorem ofList_toList (bs : Bindings) : ofList bs.toList = bs := by
  refine ofList_eq_iff.2 fun key => ?_
  exact lookup_of_perm (List.reverse_perm _).symm (Description.nodup_keys_bindings bs) key

end LSystem.Bindings
