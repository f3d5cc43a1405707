import LSystem.Json.Reader
import Mathlib.Data.List.Forall2

/-!
# Whole trees and faulty trees

The type of trees has room for more than a text can spell: a list might have an ending that only
objects can have, and any element might be broken off. The machine builds only two sorts of trees.
In a whole tree every list and object is closed (`Tree.IsWhole`); what can still be wrong with it is
the spelling of a string. A faulty tree is whole up to one place, which is the last that was read:
a broken leaf, or a list or object that does not close behind whole elements, or one whose last
element is faulty (`Tree.IsFaulty`).

The invariant of the machine is that everything in its open levels is whole. One lexeme keeps it
(`State.isSound_step`), so every text has a tree of one of the two sorts (`isFormed_ofText`).

Only a whole tree is a value, and the value shows what the tree is, layer by layer
(`Tree.value?_eq_some_iff`).
-/

namespace LSystem.Json

open LSystem.Decimal

/-! ### The two sorts -/

namespace Ending

/-- The endings of lists that do not close, behind items that are whole. -/
def stopsList : Ending → Bool
  | .commaClosed | .endOfText | .wrongNext => true
  | _ => false

/-- The endings of objects that do not close, behind members that are whole. -/
def stopsObject : Ending → Bool
  | .closed | .cut => false
  | _ => true

end Ending

namespace Tree

/-- **A tree in which every list and object is closed.** -/
inductive IsWhole : Tree → Prop
  | null : IsWhole .null
  | bool (b : Bool) : IsWhole (.bool b)
  | number (n : Numeral) : IsWhole (.number n)
  | string (s : Spelling) : IsWhole (.string s)
  | list {items : List Tree} (h : ∀ t ∈ items, IsWhole t) : IsWhole (.list items .closed)
  | object {members : List (Spelling × Tree)} (h : ∀ m ∈ members, IsWhole m.2) :
      IsWhole (.object members .closed)

/-- **A tree that is whole up to a fault in the last place.** -/
inductive IsFaulty : Tree → Prop
  | broken (b : Break) : IsFaulty (.broken b)
  | list {items : List Tree} {ending : Ending} (h : ∀ t ∈ items, IsWhole t)
      (hending : ending.stopsList) : IsFaulty (.list items ending)
  | cutList {items : List Tree} {t : Tree} (h : ∀ t ∈ items, IsWhole t) (ht : IsFaulty t) :
      IsFaulty (.list (items ++ [t]) .cut)
  | object {members : List (Spelling × Tree)} {ending : Ending} (h : ∀ m ∈ members, IsWhole m.2)
      (hending : ending.stopsObject) : IsFaulty (.object members ending)
  | cutObject {members : List (Spelling × Tree)} {name : Spelling} {t : Tree}
      (h : ∀ m ∈ members, IsWhole m.2) (ht : IsFaulty t) :
      IsFaulty (.object (members ++ [(name, t)]) .cut)

/-- A tree of one of the two sorts. -/
def IsFormed (t : Tree) : Prop := t.IsWhole ∨ t.IsFaulty

end Tree

/-! ### What the machine keeps -/

/-- A level that holds whole trees. -/
def Level.IsSound : Level → Prop
  | .list items => ∀ t ∈ items, t.IsWhole
  | .object members _ => ∀ m ∈ members, m.2.IsWhole

namespace State

/-- **A state whose levels hold whole trees,** and whose root, once there is one, is formed. -/
def IsSound : State → Prop
  | .value outer | .listStart outer | .objectStart outer => ∀ l ∈ outer, l.IsSound
  | .listNext items outer => (∀ t ∈ items, t.IsWhole) ∧ ∀ l ∈ outer, l.IsSound
  | .key members outer | .colon members _ outer | .objectNext members outer =>
    (∀ m ∈ members, m.2.IsWhole) ∧ ∀ l ∈ outer, l.IsSound
  | .whole root => root.IsWhole
  | .ended document => document.root.IsFormed

section Step

variable {l : Lexeme} (members : List (Spelling × Tree)) (outer : List Level)

/-- Where a list may not close, the next lexeme begins a value. -/
theorem step_value (h : l ≠ .closeList) : step (.value outer) l = begin outer l := by
  unfold step
  split <;> simp_all

theorem step_listStart (h : l ≠ .closeList) :
    step (.listStart outer) l = begin (.list [] :: outer) l := by
  cases l with
  | closeList => exact absurd rfl h
  | _ => rfl

theorem step_objectStart (h : l ≠ .closeObject) :
    step (.objectStart outer) l = beginKey [] outer l := by
  cases l with
  | closeObject => exact absurd rfl h
  | _ => rfl

theorem step_key (h : l ≠ .closeObject) :
    step (.key members outer) l = beginKey members outer l := by
  cases l with
  | closeObject => exact absurd rfl h
  | _ => rfl

end Step

section Sound

variable {outer : List Level} {items : List Tree} {members : List (Spelling × Tree)} {t : Tree}
  {ending : Ending}

theorem isSound_place (h : ∀ l ∈ outer, l.IsSound) (ht : t.IsWhole) : (place t outer).IsSound := by
  match outer, h with
  | [], _ => exact ht
  | .list items :: outer, h =>
    obtain ⟨hitems, houter⟩ := List.forall_mem_cons.1 h
    exact ⟨List.forall_mem_cons.2 ⟨ht, hitems⟩, houter⟩
  | .object members name :: outer, h =>
    obtain ⟨hmembers, houter⟩ := List.forall_mem_cons.1 h
    exact ⟨List.forall_mem_cons.2 ⟨ht, hmembers⟩, houter⟩

theorem isFaulty_cutLevel {level : Level} (h : level.IsSound) (ht : t.IsFaulty) :
    (cutLevel t level).IsFaulty := by
  cases level with
  | list items =>
    change (Tree.list (t :: items).reverse .cut).IsFaulty
    rw [List.reverse_cons]
    exact .cutList (fun u hu => h u (List.mem_reverse.1 hu)) ht
  | object members name =>
    change (Tree.object ((name, t) :: members).reverse .cut).IsFaulty
    rw [List.reverse_cons]
    exact .cutObject (fun m hm => h m (List.mem_reverse.1 hm)) ht

/-- A fault at the innermost place makes everything around it faulty, level by level. -/
theorem isSound_stop (h : ∀ l ∈ outer, l.IsSound) (ht : t.IsFaulty) : (stop t outer).IsSound := by
  refine Or.inr ?_
  induction outer generalizing t with
  | nil => exact ht
  | cons level outer ih =>
    obtain ⟨hlevel, houter⟩ := List.forall_mem_cons.1 h
    exact ih houter (isFaulty_cutLevel hlevel ht)

theorem isWhole_list (h : ∀ t ∈ items, t.IsWhole) : (list items .closed).IsWhole :=
  .list fun t ht => h t (List.mem_reverse.1 ht)

theorem isWhole_object (h : ∀ m ∈ members, m.2.IsWhole) : (object members .closed).IsWhole :=
  .object fun m hm => h m (List.mem_reverse.1 hm)

theorem isFaulty_list (h : ∀ t ∈ items, t.IsWhole) (he : ending.stopsList) :
    (list items ending).IsFaulty :=
  .list (fun t ht => h t (List.mem_reverse.1 ht)) he

theorem isFaulty_object (h : ∀ m ∈ members, m.2.IsWhole) (he : ending.stopsObject) :
    (object members ending).IsFaulty :=
  .object (fun m hm => h m (List.mem_reverse.1 hm)) he

theorem isSound_begin (h : ∀ l ∈ outer, l.IsSound) (l : Lexeme) : (begin outer l).IsSound := by
  cases l with
  | openList | openObject => exact h
  | null => exact isSound_place h .null
  | bool b => exact isSound_place h (.bool b)
  | number n => exact isSound_place h (.number n)
  | string s => exact isSound_place h (.string s)
  | brokenString | broken | closeList | closeObject | comma | colon =>
    exact isSound_stop h (.broken _)

theorem isSound_beginKey (hmembers : ∀ m ∈ members, m.2.IsWhole) (h : ∀ l ∈ outer, l.IsSound)
    (l : Lexeme) : (beginKey members outer l).IsSound := by
  cases l with
  | string name => exact ⟨hmembers, h⟩
  | _ => exact isSound_stop h (isFaulty_object hmembers rfl)

private theorem isSound_step_value (h : ∀ l ∈ outer, l.IsSound) (l : Lexeme) :
    (step (.value outer) l).IsSound := by
  by_cases hl : l = .closeList
  · subst hl
    match outer, h with
    | .list items :: outer, h =>
      -- The list would close behind a comma.
      obtain ⟨hitems, houter⟩ := List.forall_mem_cons.1 h
      exact isSound_stop houter (isFaulty_list hitems rfl)
    | [], h => exact isSound_begin h .closeList
    | .object members name :: outer, h => exact isSound_begin h .closeList
  · rw [step_value outer hl]
    exact isSound_begin h l

private theorem isSound_step_listStart (h : ∀ l ∈ outer, l.IsSound) (l : Lexeme) :
    (step (.listStart outer) l).IsSound := by
  by_cases hl : l = .closeList
  · subst hl
    exact isSound_place h (.list (List.forall_mem_nil _))
  · have hempty : (Level.list []).IsSound := List.forall_mem_nil _
    rw [step_listStart outer hl]
    exact isSound_begin (List.forall_mem_cons.2 ⟨hempty, h⟩) l

private theorem isSound_step_listNext (hitems : ∀ t ∈ items, t.IsWhole) (h : ∀ l ∈ outer, l.IsSound)
    (l : Lexeme) : (step (.listNext items outer) l).IsSound := by
  cases l with
  | closeList => exact isSound_place h (isWhole_list hitems)
  | comma => exact List.forall_mem_cons.2 ⟨hitems, h⟩
  | _ => exact isSound_stop h (isFaulty_list hitems rfl)

private theorem isSound_step_objectStart (h : ∀ l ∈ outer, l.IsSound) (l : Lexeme) :
    (step (.objectStart outer) l).IsSound := by
  by_cases hl : l = .closeObject
  · subst hl
    exact isSound_place h (.object (List.forall_mem_nil _))
  · rw [step_objectStart outer hl]
    exact isSound_beginKey (List.forall_mem_nil _) h l

private theorem isSound_step_key (hmembers : ∀ m ∈ members, m.2.IsWhole)
    (h : ∀ l ∈ outer, l.IsSound)
    (l : Lexeme) : (step (.key members outer) l).IsSound := by
  by_cases hl : l = .closeObject
  · subst hl
    exact isSound_stop h (isFaulty_object hmembers rfl)
  · rw [step_key members outer hl]
    exact isSound_beginKey hmembers h l

private theorem isSound_step_colon {name : Spelling} (hmembers : ∀ m ∈ members, m.2.IsWhole)
    (h : ∀ l ∈ outer, l.IsSound) (l : Lexeme) : (step (.colon members name outer) l).IsSound := by
  have hlevels : ∀ l ∈ Level.object members name :: outer, l.IsSound :=
    List.forall_mem_cons.2 ⟨hmembers, h⟩
  cases l with
  | colon => exact hlevels
  | _ => exact isSound_stop hlevels (.broken _)

private theorem isSound_step_objectNext (hmembers : ∀ m ∈ members, m.2.IsWhole)
    (h : ∀ l ∈ outer, l.IsSound) (l : Lexeme) : (step (.objectNext members outer) l).IsSound := by
  cases l with
  | closeObject => exact isSound_place h (isWhole_object hmembers)
  | comma => exact ⟨hmembers, h⟩
  | _ => exact isSound_stop h (isFaulty_object hmembers rfl)

/-- **One lexeme leaves what is whole whole.** -/
theorem isSound_step {s : State} (h : s.IsSound) (l : Lexeme) : (s.step l).IsSound := by
  cases s with
  | value outer => exact isSound_step_value h l
  | listStart outer => exact isSound_step_listStart h l
  | listNext items outer => exact isSound_step_listNext h.1 h.2 l
  | objectStart outer => exact isSound_step_objectStart h l
  | key members outer => exact isSound_step_key h.1 h.2 l
  | colon members name outer => exact isSound_step_colon h.1 h.2 l
  | objectNext members outer => exact isSound_step_objectNext h.1 h.2 l
  | whole root => exact Or.inl h
  | ended document => exact h

private theorem isSound_foldl_step {s : State} (h : s.IsSound) (ls : List Lexeme) :
    (ls.foldl step s).IsSound := by
  induction ls generalizing s with
  | nil => exact h
  | cons l ls ih => exact ih (isSound_step h l)

/-- Stopping ends with a document, whose root is around the fault. -/
private theorem isFormed_stop (h : ∀ l ∈ outer, l.IsSound) (ht : t.IsFaulty) :
    (stop t outer).document.root.IsFormed := isSound_stop h ht

/-- **The end of the text comes to a formed tree.** -/
theorem isFormed_finish {s : State} (h : s.IsSound) : s.finish.root.IsFormed := by
  cases s with
  | value outer => exact isFormed_stop h (.broken _)
  | listStart outer => exact isFormed_stop h (isFaulty_list (List.forall_mem_nil _) rfl)
  | listNext items outer => exact isFormed_stop h.2 (isFaulty_list h.1 rfl)
  | objectStart outer => exact isFormed_stop h (isFaulty_object (List.forall_mem_nil _) rfl)
  | key members outer => exact isFormed_stop h.2 (isFaulty_object h.1 rfl)
  | colon members name outer =>
    exact isFormed_stop (List.forall_mem_cons.2 ⟨h.1, h.2⟩) (.broken _)
  | objectNext members outer => exact isFormed_stop h.2 (isFaulty_object h.1 rfl)
  | whole root => exact Or.inl h
  | ended document => exact h

end Sound

end State

/-- **Every text has a tree of one of the two sorts.** -/
theorem isFormed_ofText (text : String) : (Document.ofText text).root.IsFormed := by
  have hstart : (State.value []).IsSound := List.forall_mem_nil _
  exact State.isFormed_finish (State.isSound_foldl_step hstart _)

/-! ### Trees and values -/

/-- A member of an object that stands for a key and a value. -/
def IsMember (member : Spelling × Tree) (given : String × Value) : Prop :=
  member.1 = .ok given.1 ∧ member.2.value? = some given.2

/-- The values of items are those in front and one for each item. -/
theorem itemValues?_eq_some_iff {done : List Value} {items : List Tree} {v : Value} :
    itemValues? done items = some v ↔
      ∃ vs, v = .list (done.reverse ++ vs) ∧
        List.Forall₂ (fun t v => t.value? = some v) items vs := by
  -- The induction is on what is still to be read, for any values that are done.
  induction items generalizing done with
  | nil =>
    rw [itemValues?, Option.some.injEq]
    constructor
    · rintro rfl
      exact ⟨[], by rw [List.append_nil], .nil⟩
    · rintro ⟨vs, rfl, hvs⟩
      cases hvs
      rw [List.append_nil]
  | cons t ts ih =>
    rw [itemValues?]
    constructor
    · intro h
      cases ht : t.value? with
      | none => simp [ht] at h
      | some u =>
        rw [ht] at h
        obtain ⟨vs, rfl, hvs⟩ := ih.1 h
        exact ⟨u :: vs, by simp, .cons ht hvs⟩
    · rintro ⟨vs, rfl, hvs⟩
      obtain ⟨u, us, hu, hus, rfl⟩ := List.forall₂_cons_left_iff.1 hvs
      rw [hu]
      exact ih.2 ⟨us, by simp, hus⟩

theorem memberValues?_eq_some_iff {done : List (String × Value)}
    {members : List (Spelling × Tree)} {v : Value} :
    memberValues? done members = some v ↔
      ∃ given, v = .object (done.reverse ++ given) ∧ List.Forall₂ IsMember members given := by
  -- As for items, with the key to be spelled besides.
  induction members generalizing done with
  | nil =>
    rw [memberValues?, Option.some.injEq]
    constructor
    · rintro rfl
      exact ⟨[], by rw [List.append_nil], .nil⟩
    · rintro ⟨given, rfl, hgiven⟩
      cases hgiven
      rw [List.append_nil]
  | cons m ms ih =>
    obtain ⟨name, t⟩ := m
    unfold memberValues?
    constructor
    · intro h
      split at h
      · next key u ht =>
        obtain ⟨given, rfl, hgiven⟩ := ih.1 h
        exact ⟨(key, u) :: given, by simp, .cons ⟨rfl, ht⟩ hgiven⟩
      · cases h
    · rintro ⟨given, rfl, hgiven⟩
      obtain ⟨⟨key, u⟩, rest, ⟨hkey, hu⟩, hrest, rfl⟩ := List.forall₂_cons_left_iff.1 hgiven
      have hmember : (name, t) = (.ok key, t) := congrArg (·, t) hkey
      cases hmember
      have hu : t.value? = some u := hu
      rw [hu]
      exact ih.2 ⟨rest, by simp, hrest⟩

namespace Tree

variable {t : Tree}

/-- **A faulty tree is no value.** -/
theorem IsFaulty.value?_eq_none (h : t.IsFaulty) : t.value? = none := by
  cases h with
  | broken b => rfl
  | @list items ending _ hending => cases ending <;> simp_all [value?, Ending.stopsList]
  | cutList => simp [value?]
  | @object members ending _ hending => cases ending <;> simp_all [value?, Ending.stopsObject]
  | cutObject => simp [value?]

/-- A tree and its value, as far as the outermost layer shows it. -/
inductive HasValue : Tree → Value → Prop
  | null : HasValue .null .null
  | bool (b : Bool) : HasValue (.bool b) (.bool b)
  | number (n : Numeral) : HasValue (.number n) (.number n)
  | string (s : String) : HasValue (.string (.ok s)) (.string s)
  | list {items : List Tree} {vs : List Value}
      (h : List.Forall₂ (fun t v => t.value? = some v) items vs) :
      HasValue (.list items .closed) (.list vs)
  | object {members : List (Spelling × Tree)} {given : List (String × Value)}
      (h : List.Forall₂ IsMember members given) :
      HasValue (.object members .closed) (.object given)

/-- **A tree shows its value layer by layer.** -/
theorem value?_eq_some_iff {v : Value} : t.value? = some v ↔ t.HasValue v := by
  -- Only a closed tree has a value, and has it if all that stands in it has one.
  constructor
  · intro h
    cases t with
    | null => cases h; exact .null
    | bool b => cases h; exact .bool b
    | number n => cases h; exact .number n
    | string s =>
      cases s with
      | error f => cases h
      | ok s => cases h; exact .string s
    | list items ending =>
      unfold value? at h
      split at h
      · next hending =>
        subst hending
        obtain ⟨vs, rfl, hvs⟩ := itemValues?_eq_some_iff.1 h
        exact .list hvs
      · cases h
    | object members ending =>
      unfold value? at h
      split at h
      · next hending =>
        subst hending
        obtain ⟨given, rfl, hgiven⟩ := memberValues?_eq_some_iff.1 h
        exact .object hgiven
      · cases h
    | broken b => cases h
  · intro h
    cases h with
    | null | bool b | number n | string s => rfl
    | list h =>
      rw [value?, if_pos rfl]
      exact itemValues?_eq_some_iff.2 ⟨_, rfl, h⟩
    | object h =>
      rw [value?, if_pos rfl]
      exact memberValues?_eq_some_iff.2 ⟨_, rfl, h⟩

end Tree

end LSystem.Json
