import Mathlib.Data.List.Forall2
import Mathlib.Data.List.Nodup

/-!
# Lists of pairs and pairs of lists

A list of pairs assigns values to keys. Where a key occurs twice it matters from which end the
list is read: a look-up takes the first pair, and a loop that writes one pair after the other
leaves the last, which is the look-up in the reversed list. If no key occurs twice, both are the
pair that is in the list (`lookup_eq_some_iff_mem`), and the order does not matter
(`lookup_of_perm`).

Two lists may correspond entry by entry. Then every entry of one has a partner in the other, and
the lists have the same images if their entries have (`map_eq_map_iff_forall₂`). Two lists that
correspond to a third one correspond to each other, by what their entries have in common with it
(`forall₂_of_common`).
-/

namespace LSystem

variable {α β : Type*}

/-! ### Assignments -/

section Assignment

variable [DecidableEq α]

theorem lookup_cons_eq_ite (key : α) (p : α × β) (pairs : List (α × β)) :
    (p :: pairs).lookup key = if key = p.1 then some p.2 else pairs.lookup key := by
  rw [List.lookup_cons]
  by_cases h : key = p.1
  · simp [h]
  · rw [if_neg h, beq_false_of_ne h]

theorem mem_of_lookup_eq_some {pairs : List (α × β)} {key : α} {value : β}
    (h : pairs.lookup key = some value) : (key, value) ∈ pairs := by
  obtain ⟨before, after, rfl, -⟩ := List.lookup_eq_some_iff.1 h
  simp

/-- If no key occurs twice, a look-up finds what is in the list. -/
theorem lookup_eq_some_iff_mem {pairs : List (α × β)} (h : (pairs.map Prod.fst).Nodup) {key : α}
    {value : β} : pairs.lookup key = some value ↔ (key, value) ∈ pairs := by
  rw [List.lookup_eq_some_iff]
  constructor
  · rintro ⟨before, after, rfl, -⟩
    simp
  · intro hmem
    obtain ⟨before, after, rfl⟩ := List.append_of_mem hmem
    refine ⟨before, after, rfl, fun p hp => ?_⟩
    -- A pair in front with this key would be a second one.
    rw [List.map_append, List.map_cons, List.nodup_append] at h
    have hne := h.2.2 p.1 (List.mem_map_of_mem hp) key List.mem_cons_self
    simpa using hne.symm

/-- If no key occurs twice, the order of the pairs does not matter. -/
theorem lookup_of_perm {pairs pairs' : List (α × β)} (hperm : pairs.Perm pairs')
    (h : (pairs.map Prod.fst).Nodup) (key : α) : pairs.lookup key = pairs'.lookup key := by
  have h' : (pairs'.map Prod.fst).Nodup := (hperm.map Prod.fst).nodup h
  ext value
  rw [lookup_eq_some_iff_mem h, lookup_eq_some_iff_mem h', hperm.mem_iff]

end Assignment

/-! ### Correspondence -/

section Correspondence

variable {γ : Type*} {R : α → β → Prop} {as : List α} {bs : List β} {cs : List γ}

theorem exists_mem_right_of_forall₂ (h : List.Forall₂ R as bs) {a : α} (ha : a ∈ as) :
    ∃ b ∈ bs, R a b := by
  induction h with
  | nil => cases ha
  | @cons a' b as bs hab _ ih =>
    rcases List.mem_cons.1 ha with rfl | ha
    · exact ⟨b, List.mem_cons_self, hab⟩
    · obtain ⟨b', hb', hab'⟩ := ih ha
      exact ⟨b', List.mem_cons_of_mem _ hb', hab'⟩

theorem exists_mem_left_of_forall₂ (h : List.Forall₂ R as bs) {b : β} (hb : b ∈ bs) :
    ∃ a ∈ as, R a b := exists_mem_right_of_forall₂ h.flip hb

/-- What is in one of several lists put together comes from the partner of this list. -/
theorem exists_of_mem_flatten {R : α → List β → Prop} {bss : List (List β)}
    (h : List.Forall₂ R as bss) {b : β} (hb : b ∈ bss.flatten) :
    ∃ a ∈ as, ∃ bs, R a bs ∧ b ∈ bs := by
  obtain ⟨bs, hbs, hmem⟩ := List.mem_flatten.1 hb
  obtain ⟨a, ha, hab⟩ := exists_mem_left_of_forall₂ h hbs
  exact ⟨a, ha, bs, hab, hmem⟩

theorem map_eq_map_iff_forall₂ {f : α → γ} {g : β → γ} :
    as.map f = bs.map g ↔ List.Forall₂ (fun a b => f a = g b) as bs := by
  rw [← List.forall₂_eq_eq_eq, List.forall₂_map_left_iff, List.forall₂_map_right_iff]

theorem forall₂_of_common {A : α → γ → Prop} {B : β → γ → Prop} (h : List.Forall₂ A as cs)
    (h' : List.Forall₂ B bs cs) : List.Forall₂ (fun a b => ∃ c, A a c ∧ B b c) as bs := by
  induction h generalizing bs with
  | nil =>
    cases h'
    exact .nil
  | cons ha _ ih =>
    cases h' with
    | cons hb hbs => exact .cons ⟨_, ha, hb⟩ (ih hbs)

theorem exists_forall₂ (h : ∀ a ∈ as, ∃ b, R a b) : ∃ bs, List.Forall₂ R as bs := by
  induction as with
  | nil => exact ⟨[], .nil⟩
  | cons a as ih =>
    obtain ⟨⟨b, hb⟩, h⟩ := List.forall_mem_cons.1 h
    obtain ⟨bs, hbs⟩ := ih h
    exact ⟨b :: bs, .cons hb hbs⟩

/-- Lists whose entries correspond through something in between correspond through a list. -/
theorem exists_between_of_forall₂ {S : α → γ → Prop} {A : α → β → Prop} {B : β → γ → Prop}
    (h : List.Forall₂ S as cs) (hS : ∀ a ∈ as, ∀ c, S a c → ∃ b, A a b ∧ B b c) :
    ∃ bs, List.Forall₂ A as bs ∧ List.Forall₂ B bs cs := by
  induction h with
  | nil => exact ⟨[], .nil, .nil⟩
  | @cons a c as cs hac _ ih =>
    obtain ⟨b, hab, hbc⟩ := hS a List.mem_cons_self c hac
    obtain ⟨bs, habs, hbcs⟩ := ih fun a' ha' => hS a' (List.mem_cons_of_mem _ ha')
    exact ⟨b :: bs, .cons hab habs, .cons hbc hbcs⟩

/-- Entries in the same place correspond, and so do defaults that stand in for them. -/
theorem rel_getD (h : List.Forall₂ R as bs) {a : α} {b : β} (hab : R a b) (i : Nat) :
    R (as[i]?.getD a) (bs[i]?.getD b) := by
  induction h generalizing i with
  | nil => exact hab
  | cons hfirst _ ih =>
    cases i with
    | zero => exact hfirst
    | succ i =>
      rw [List.getElem?_cons_succ, List.getElem?_cons_succ]
      exact ih i

/-- What is searched for is found in the same place. -/
theorem rel_find? {p : α → Bool} {q : β → Bool} (hpq : ∀ a b, R a b → p a = q b)
    (h : List.Forall₂ R as bs) : Option.Rel R (as.find? p) (bs.find? q) := by
  induction h with
  | nil => exact .none
  | @cons a b as bs hab _ ih =>
    rw [List.find?_cons, List.find?_cons, ← hpq a b hab]
    cases p a with
    | true => exact .some hab
    | false => exact ih

end Correspondence

end LSystem
