import LSystem.Proofs.Pairs
import LSystem.Symbol.Table

/-!
# What numbering does to a table

A table is its list of tokens. Numbering tokens adds those that are not yet in the list, each
once and in the order in which they come (`enroll`); this fixes every number, so everything about
numbers is said through the list. A list that began empty keeps the first occurrences
(`enroll_nil_eq_eraseDups`).

* `Numbered`: what it means that texts have been numbered. The table has enrolled them, and each
  number is the number of its text.
* `Admits`: what texts have to be like for this. They are tokens, and the list with all of them is
  not too long.
* `numbered_of_internTokens` and `exists_internTokens`: what numbering gives has been numbered, and
  texts that are admitted can be numbered.
* `Refuses` and `refuses_of_internTokens`: if numbering fails, it says what is wrong with the texts.

A table only grows (`Extends`), so a number that has been given away keeps its token. Of a list of
texts a table admits the first part, and then, grown by this part, the second (`Admits.left`,
`Admits.right`). These two lemmas carry every loop that numbers tokens, and the same two for what is
refused carry every loop that fails.
-/

namespace LSystem

namespace SymbolTable

variable {t t' t'' : SymbolTable} {s : Symbol} {name text : String} {names texts : List String}

/-- The tokens of a table in the order of their numbers. -/
def toList (t : SymbolTable) : List String := t.names.toList

@[simp] theorem toList_empty : toList .empty = [] := rfl

theorem name?_eq_getElem? (t : SymbolTable) (s : Symbol) : t.name? s = t.toList[s.toNat]? := by
  rw [name?, toList, Array.getElem?_toList]

theorem length_toList_le (t : SymbolTable) : t.toList.length ≤ maxSymbols := by
  rw [toList, Array.length_toList]
  exact t.size_le

theorem size_eq_length_toList (t : SymbolTable) : t.size = t.toList.length := by
  rw [toList, Array.length_toList, size]

theorem symbol?_eq_none_iff : t.symbol? name = none ↔ name ∉ t.toList := by
  constructor
  · intro h hmem
    obtain ⟨i, hi⟩ := List.mem_iff_getElem?.1 hmem
    rw [toList, Array.getElem?_toList] at hi
    exact notMem_of_symbol?_eq_none h hi
  · intro h
    rw [Option.eq_none_iff_forall_ne_some]
    intro s hs
    rw [symbol?_eq_some_iff, name?_eq_getElem?] at hs
    exact h (List.mem_of_getElem? hs)

/-- No two numbers have the same token. -/
theorem name?_inj {s' : Symbol} (h : t.name? s = some name) (h' : t.name? s' = some name) :
    s = s' := by
  rw [← symbol?_eq_some_iff] at h h'
  exact Option.some.inj (h.symm.trans h')

/-- Every token of a table has a number. -/
theorem exists_name?_of_mem (h : name ∈ t.toList) : ∃ s, t.name? s = some name := by
  have hne : t.symbol? name ≠ none := fun hnone => symbol?_eq_none_iff.1 hnone h
  obtain ⟨s, hs⟩ := Option.ne_none_iff_exists'.1 hne
  exact ⟨s, symbol?_eq_some_iff.1 hs⟩

theorem mem_toList_of_name? (h : t.name? s = some name) : name ∈ t.toList := by
  rw [name?_eq_getElem?] at h
  exact List.mem_of_getElem? h

theorem lt_of_name? (h : t.name? s = some name) : s.toNat < t.size := by
  rw [name?_eq_getElem?] at h
  rw [size_eq_length_toList]
  exact (List.getElem?_eq_some_iff.1 h).1

/-- A number beyond the table has no token. -/
theorem name?_eq_none {t : SymbolTable} {s : Symbol} (hs : t.size ≤ s.toNat) :
    t.name? s = none := by
  rw [name?_eq_getElem?, List.getElem?_eq_none_iff, ← size_eq_length_toList]
  exact hs

@[simp] theorem toList_push (new : t.symbol? name = none) (room : t.size < maxSymbols) :
    (t.push name new room).toList = t.toList ++ [name] := by
  obtain ⟨names, numbers, size_le, numbers_iff⟩ := t
  exact Array.toList_push

/-! ### Enrolling tokens -/

/-- Puts the texts that are not yet in a list behind it, each once. -/
def enroll (names : List String) : List String → List String
  | [] => names
  | text :: texts => enroll (if text ∈ names then names else names ++ [text]) texts

@[simp] theorem enroll_nil (names : List String) : enroll names [] = names := rfl

theorem enroll_cons (names : List String) (text : String) (texts : List String) :
    enroll names (text :: texts) = enroll (enroll names [text]) texts := rfl

theorem enroll_of_mem (h : text ∈ names) : enroll names [text] = names := if_pos h

theorem enroll_of_notMem (h : text ∉ names) : enroll names [text] = names ++ [text] := if_neg h

theorem enroll_append (names texts texts' : List String) :
    enroll names (texts ++ texts') = enroll (enroll names texts) texts' := by
  induction texts generalizing names with
  | nil => rfl
  | cons text texts ih => rw [List.cons_append, enroll_cons, ih, ← enroll_cons]

/-- Nothing that is in the list moves. -/
theorem prefix_enroll (names texts : List String) : names <+: enroll names texts := by
  induction texts generalizing names with
  | nil => exact List.prefix_refl names
  | cons text texts ih =>
    rw [enroll_cons]
    refine List.IsPrefix.trans ?_ (ih _)
    by_cases h : text ∈ names
    · exact ⟨[], by rw [List.append_nil, enroll_of_mem h]⟩
    · rw [enroll_of_notMem h]
      exact List.prefix_append names [text]

@[simp] theorem mem_enroll : name ∈ enroll names texts ↔ name ∈ names ∨ name ∈ texts := by
  induction texts generalizing names with
  | nil => simp
  | cons text texts ih =>
    rw [enroll_cons, ih]
    by_cases h : text ∈ names
    · -- A text that is in the list already adds nothing to it.
      rw [enroll_of_mem h, List.mem_cons]
      constructor
      · exact Or.imp_right .inr
      · rintro (hname | rfl | hname)
        · exact .inl hname
        · exact .inl h
        · exact .inr hname
    · rw [enroll_of_notMem h, List.mem_append, List.mem_singleton, List.mem_cons, or_assoc]

theorem nodup_enroll (h : names.Nodup) (texts : List String) : (enroll names texts).Nodup := by
  induction texts generalizing names with
  | nil => exact h
  | cons text texts ih =>
    rw [enroll_cons]
    apply ih
    -- A text is appended only if it is new.
    by_cases hmem : text ∈ names
    · rw [enroll_of_mem hmem]
      exact h
    · rw [enroll_of_notMem hmem, ← List.concat_eq_append]
      exact h.concat hmem

/-- Enrolling adds the first occurrences of the texts that are not yet there. -/
private theorem enroll_eq_append (names texts : List String) :
    enroll names texts = names ++ (texts.filter fun text => text ∉ names).eraseDups := by
  induction texts generalizing names with
  | nil => simp
  | cons text texts ih =>
    rw [enroll_cons, ih]
    by_cases h : text ∈ names
    · rw [enroll_of_mem h, List.filter_cons_of_neg (by simpa using h)]
    · rw [enroll_of_notMem h, List.filter_cons_of_pos (by simpa using h), List.eraseDups_cons,
        List.filter_filter, List.append_assoc, List.singleton_append]
      -- What is enrolled later is neither in the list nor the text that has just been added.
      have hfilter : (texts.filter fun other => other ∉ names ++ [text]) =
          texts.filter fun other => (!other == text) && decide (other ∉ names) := by
        apply List.filter_congr
        intro other _
        by_cases heq : other = text
        · simp [heq]
        · simp [heq]
      rw [hfilter]

/-- Texts that are enrolled in an empty list are the first occurrences among them. -/
theorem enroll_nil_eq_eraseDups (texts : List String) : enroll [] texts = texts.eraseDups := by
  rw [enroll_eq_append, List.nil_append, List.filter_eq_self.2 (by simp)]

/-! ### Growing tables -/

/-- A table with all tokens of another one, in the same places. -/
def Extends (t t' : SymbolTable) : Prop := t.toList <+: t'.toList

theorem Extends.trans (h : t.Extends t') (h' : t'.Extends t'') : t.Extends t'' :=
  List.IsPrefix.trans h h'

/-- A number keeps its token. -/
theorem Extends.name? (h : t.Extends t') (hs : t.name? s = some name) : t'.name? s = some name := by
  rw [name?_eq_getElem?] at hs ⊢
  obtain ⟨rest, hrest⟩ := h
  rw [← hrest, List.getElem?_append_left (List.getElem?_eq_some_iff.1 hs).1, hs]

/-! ### Numbering a token -/

/-- A token that is numbered is enrolled, and has its number. -/
theorem toList_intern (h : t.intern text = (.ok s, t')) :
    t'.toList = enroll t.toList [text] ∧ t'.name? s = some text := by
  cases hs : t.symbol? text with
  | some s₀ =>
    -- A known token: the table has it, so it stays as it is.
    rw [intern_of_symbol? hs] at h
    cases h
    have hname := symbol?_eq_some_iff.1 hs
    exact ⟨(enroll_of_mem (mem_toList_of_name? hname)).symm, hname⟩
  | none =>
    by_cases room : t.size < maxSymbols
    · rw [intern_of_lt hs room] at h
      cases h
      -- A new token: its number is the place behind all others.
      have hlist := toList_push hs room
      refine ⟨by rw [hlist, enroll_of_notMem (symbol?_eq_none_iff.1 hs)], ?_⟩
      rw [name?_eq_getElem?, hlist, toNat_next room, ← Array.length_toList]
      exact List.getElem?_concat_length
    · rw [intern_of_full hs (Nat.le_of_not_lt room)] at h
      cases h

/-- A token can be numbered if the list with it is not too long. -/
theorem exists_intern (hroom : (enroll t.toList [text]).length ≤ maxSymbols) :
    ∃ s t', t.intern text = (.ok s, t') := by
  cases hs : t.symbol? text with
  | some s => exact ⟨s, t, intern_of_symbol? hs⟩
  | none =>
    -- The list gets longer by one, so there was room for one more.
    have hnew := symbol?_eq_none_iff.1 hs
    have room : t.size < maxSymbols := by
      rw [enroll_of_notMem hnew, List.length_append, List.length_singleton] at hroom
      rw [size_eq_length_toList]
      exact hroom
    exact ⟨_, _, intern_of_lt hs room⟩

/-! ### Numbering several tokens -/

/-- Numbers that stand for texts. -/
def Spells (t : SymbolTable) (symbols : List Symbol) (texts : List String) : Prop :=
  symbols.map t.name? = texts.map some

/-- A table that has grown by texts, all of which are tokens. -/
structure Enrolled (t : SymbolTable) (texts : List String) (t' : SymbolTable) : Prop where
  isToken : ∀ text ∈ texts, isToken text
  toList_eq : t'.toList = enroll t.toList texts

/-- **Texts that have been numbered:** the table has grown by them, and the numbers stand for
them. -/
structure Numbered (t : SymbolTable) (texts : List String) (symbols : List Symbol)
    (t' : SymbolTable) : Prop extends Enrolled t texts t' where
  spells : t'.Spells symbols texts

theorem spells_iff_forall₂ {symbols : List Symbol} :
    t.Spells symbols texts ↔
      List.Forall₂ (fun s text => t.name? s = some text) symbols texts := map_eq_map_iff_forall₂

theorem spells_singleton_iff : t.Spells [s] [text] ↔ t.name? s = some text := by
  rw [Spells, List.map_singleton, List.map_singleton, List.singleton_inj]

theorem Spells.exists_name? {symbols : List Symbol} (h : t.Spells symbols texts)
    (hs : s ∈ symbols) : ∃ text ∈ texts, t.name? s = some text :=
  exists_mem_right_of_forall₂ (spells_iff_forall₂.1 h) hs

theorem Spells.extends {symbols : List Symbol} (h : t.Spells symbols texts) (hext : t.Extends t') :
    t'.Spells symbols texts := by
  rw [spells_iff_forall₂] at h ⊢
  exact h.imp fun s text hs => hext.name? hs

theorem Spells.length_eq {symbols : List Symbol} (h : t.Spells symbols texts) :
    symbols.length = texts.length := by
  have := congrArg List.length h
  rwa [List.length_map, List.length_map] at this

theorem Spells.eq_nil_iff {symbols : List Symbol} (h : t.Spells symbols texts) :
    symbols = [] ↔ texts = [] := by
  rw [← List.length_eq_zero_iff, h.length_eq, List.length_eq_zero_iff]

theorem Enrolled.nil (t : SymbolTable) : t.Enrolled [] t := ⟨by simp, rfl⟩

theorem Enrolled.extends (h : t.Enrolled texts t') : t.Extends t' := by
  rw [Extends, h.toList_eq]
  exact prefix_enroll _ _

theorem Enrolled.append {texts' : List String} (h : t.Enrolled texts t')
    (h' : t'.Enrolled texts' t'') : t.Enrolled (texts ++ texts') t'' where
  isToken := by
    intro text htext
    rcases List.mem_append.1 htext with htext | htext
    · exact h.isToken text htext
    · exact h'.isToken text htext
  toList_eq := by rw [h'.toList_eq, h.toList_eq, enroll_append]

theorem Enrolled.mem_toList (h : t.Enrolled texts t') (hname : name ∈ texts) :
    name ∈ t'.toList := by
  rw [h.toList_eq, mem_enroll]
  exact .inr hname

/-- Texts that are numbered behind other texts. -/
theorem Numbered.append {texts' : List String} {symbols symbols' : List Symbol}
    (h : t.Numbered texts symbols t') (h' : t'.Numbered texts' symbols' t'') :
    t.Numbered (texts ++ texts') (symbols ++ symbols') t'' where
  toEnrolled := h.toEnrolled.append h'.toEnrolled
  spells := by
    have hspells := h.spells.extends h'.extends
    rw [Spells] at hspells ⊢
    rw [List.map_append, List.map_append, hspells, h'.spells]

/-! ### Texts that are admitted -/

/-- **Texts that a table admits:** they are tokens, and there are numbers for all of them. -/
structure Admits (t : SymbolTable) (texts : List String) : Prop where
  isToken : ∀ text ∈ texts, isToken text
  length_le : (enroll t.toList texts).length ≤ maxSymbols

instance (t : SymbolTable) (texts : List String) : Decidable (t.Admits texts) :=
  decidable_of_iff
    ((∀ text ∈ texts, SymbolTable.isToken text) ∧ (enroll t.toList texts).length ≤ maxSymbols)
    ⟨fun ⟨htoken, hlength⟩ => ⟨htoken, hlength⟩, fun h => ⟨h.isToken, h.length_le⟩⟩

/-- Texts that have been numbered were admitted. -/
theorem Enrolled.admits (h : t.Enrolled texts t') : t.Admits texts where
  isToken := h.isToken
  length_le := h.toList_eq ▸ t'.length_toList_le

/-- The first part of texts is admitted. -/
theorem Admits.left {texts' : List String} (h : t.Admits (texts ++ texts')) : t.Admits texts where
  isToken text htext := h.isToken text (List.mem_append_left _ htext)
  length_le := by
    have hle := h.length_le
    rw [enroll_append] at hle
    exact Nat.le_trans (prefix_enroll _ _).length_le hle

/-- The second part of texts is admitted by the table that has grown by the first. -/
theorem Admits.right {texts' : List String} (h : t.Admits (texts ++ texts'))
    (hfirst : t.Enrolled texts t') : t'.Admits texts' where
  isToken text htext := h.isToken text (List.mem_append_right _ htext)
  length_le := by
    have hle := h.length_le
    rw [enroll_append, ← hfirst.toList_eq] at hle
    exact hle

theorem Admits.head (h : t.Admits (text :: texts)) : t.Admits [text] := by
  change t.Admits ([text] ++ texts) at h
  exact h.left

theorem Admits.tail (h : t.Admits (text :: texts)) (hfirst : t.Enrolled [text] t') :
    t'.Admits texts := Admits.right h hfirst

/-! ### Loops that number tokens -/

/-- One text that has been numbered. -/
theorem numbered_of_internToken (h : t.internToken text = (.ok s, t')) :
    t.Numbered [text] [s] t' := by
  rw [internToken] at h
  split at h
  · next htoken =>
    obtain ⟨hlist, hname⟩ := toList_intern h
    refine ⟨⟨?_, hlist⟩, spells_singleton_iff.2 hname⟩
    simpa using htoken
  · cases h

/-- A text that is admitted can be numbered. -/
theorem exists_internToken (h : t.Admits [text]) : ∃ s t', t.internToken text = (.ok s, t') := by
  have htoken : isToken text = true := h.isToken text List.mem_cons_self
  obtain ⟨s, t', hintern⟩ := exists_intern h.length_le
  exact ⟨s, t', by rw [internToken, if_pos htoken, hintern]⟩

/-- What has been numbered before comes first in the result. -/
private theorem numbered_of_internOnto {done symbols : List Symbol}
    (h : t.internOnto done texts = .ok (symbols, t')) :
    ∃ new, symbols = done.reverse ++ new ∧ t.Numbered texts new t' := by
  -- The induction is on what is still to be interned, for any symbols that are done.
  induction texts generalizing t done with
  | nil =>
    cases h
    exact ⟨[], by rw [List.append_nil], .nil _, rfl⟩
  | cons text texts ih =>
    rw [internOnto] at h
    split at h
    · next s t₁ hfirst =>
      obtain ⟨new, hsymbols, hrest⟩ := ih h
      refine ⟨s :: new, ?_, (numbered_of_internToken hfirst).append hrest⟩
      rw [hsymbols, List.reverse_cons, List.append_assoc, List.singleton_append]
    · cases h

/-- **What numbering gives has been numbered.** -/
theorem numbered_of_internTokens {symbols : List Symbol}
    (h : t.internTokens texts = .ok (symbols, t')) : t.Numbered texts symbols t' := by
  obtain ⟨new, hsymbols, hnew⟩ := numbered_of_internOnto h
  rw [List.reverse_nil, List.nil_append] at hsymbols
  exact hsymbols ▸ hnew

/-- **Texts that are admitted can be numbered.** -/
theorem exists_internTokens (h : t.Admits texts) :
    ∃ symbols t', t.internTokens texts = .ok (symbols, t') := by
  -- What has been numbered before has no say in whether the rest can be.
  suffices ∀ done, ∃ symbols t', t.internOnto done texts = .ok (symbols, t') from this []
  induction texts generalizing t with
  | nil => exact fun done => ⟨done.reverse, t, rfl⟩
  | cons text texts ih =>
    intro done
    obtain ⟨s, t₁, hfirst⟩ := exists_internToken h.head
    have hrest := h.tail (numbered_of_internToken hfirst).toEnrolled
    obtain ⟨symbols, t', honto⟩ := ih hrest (s :: done)
    exact ⟨symbols, t', by rw [internOnto, hfirst]; exact honto⟩

/-- There is a table of any texts that are admitted by the empty one. -/
theorem exists_toList_eq (h : empty.Admits texts) :
    ∃ t : SymbolTable, t.toList = enroll [] texts := by
  obtain ⟨_, t, hintern⟩ := exists_internTokens h
  exact ⟨t, (numbered_of_internTokens hintern).toList_eq⟩

/-! ### Texts that are refused -/

/-- **Texts that a table refuses,** and why: one of them is no token, or there are too many. -/
inductive Refuses (t : SymbolTable) (texts : List String) : Defect → Prop
  | notAToken {text : String} (hmem : text ∈ texts) (htoken : isToken text = false) :
      Refuses t texts (.notAToken text)
  | tooMany (hlength : maxSymbols < (enroll t.toList texts).length) :
      Refuses t texts .tooManySymbols

variable {d : Defect}

theorem Refuses.left (h : t.Refuses texts d) (texts' : List String) :
    t.Refuses (texts ++ texts') d := by
  cases h with
  | notAToken hmem htoken => exact .notAToken (List.mem_append_left _ hmem) htoken
  | tooMany hlength =>
    apply Refuses.tooMany
    rw [enroll_append]
    exact Nat.lt_of_lt_of_le hlength (prefix_enroll _ _).length_le

/-- What the grown table refuses was refused before it grew. -/
theorem Refuses.right {texts' : List String} (h : t'.Refuses texts' d)
    (hfirst : t.Enrolled texts t') : t.Refuses (texts ++ texts') d := by
  cases h with
  | notAToken hmem htoken => exact .notAToken (List.mem_append_right _ hmem) htoken
  | tooMany hlength =>
    apply Refuses.tooMany
    rw [enroll_append, ← hfirst.toList_eq]
    exact hlength

theorem refuses_of_internToken (h : t.internToken text = (.error d, t')) :
    t.Refuses [text] d := by
  rw [internToken] at h
  split at h
  · cases hs : t.symbol? text with
    | some s =>
      rw [intern_of_symbol? hs] at h
      cases h
    | none =>
      by_cases room : t.size < maxSymbols
      · rw [intern_of_lt hs room] at h
        cases h
      · -- The table is full, and the text would be one more.
        rw [intern_of_full hs (Nat.le_of_not_lt room)] at h
        cases h
        apply Refuses.tooMany
        rw [enroll_of_notMem (symbol?_eq_none_iff.1 hs), List.length_append,
          List.length_singleton, ← size_eq_length_toList]
        exact Nat.lt_succ_of_le (Nat.le_of_not_lt room)
  · next htoken =>
    cases h
    exact .notAToken List.mem_cons_self (Bool.eq_false_iff.2 htoken)

/-- **Texts that cannot be numbered are refused.** -/
theorem refuses_of_internTokens (h : t.internTokens texts = .error d) : t.Refuses texts d := by
  -- What is done already plays no part in what is refused.
  suffices ∀ done, t.internOnto done texts = .error d → t.Refuses texts d from this [] h
  clear h
  induction texts generalizing t with
  | nil => exact fun done => nofun
  | cons text texts ih =>
    intro done h
    rw [internOnto] at h
    split at h
    · next s t₁ hfirst =>
      -- A text that was taken is in the list from then on.
      exact (ih _ h).right (numbered_of_internToken hfirst).toEnrolled
    · next e t₁ hfirst =>
      cases h
      exact (refuses_of_internToken hfirst).left texts

end SymbolTable

end LSystem
