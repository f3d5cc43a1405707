import LSystem.Proofs.Symbol.Interning
import Mathlib.Data.List.Induction

/-!
# The history of a table

A table is used by numbering one token after the other, and a token that is refused is no end of
it: the table is still there, and the next token may be one that it knows. `internEach` goes on with
a table in this way, whatever becomes of the single tokens, and `after` is what comes of a table
that was empty at first.

New tokens come behind all others until every number has been given away. So after any history the
table holds the first occurrences among its tokens, cut off where there are no more numbers
(`toList_internEach`), and all that can be asked of the table is answered by that list (`Holds`).
The cut does not move any more once it has been reached, since the list behind it is not looked at
(`take_enroll_of_le`); this is why the tokens that are refused in between do not matter.

`holds_after` says what holds after every history, and what one more token does then.
-/

namespace LSystem

namespace SymbolTable

variable {t t' : SymbolTable} {s : Symbol} {name : String} {names : List String}

/-! ### What a table answers -/

/-- **A table that holds some tokens:** each of them once, and their numbers are their places. -/
structure Holds (t : SymbolTable) (names : List String) : Prop where
  nodup : names.Nodup
  size_eq : t.size = names.length
  size_le : t.size ≤ maxSymbols
  /-- There is a number for every place. -/
  exists_toNat_eq : ∀ i < t.size, ∃ s : Symbol, s.toNat = i
  name?_eq : ∀ s, t.name? s = names[s.toNat]?
  symbol?_eq_some_iff : ∀ name s, t.symbol? name = some s ↔ names[s.toNat]? = some name
  symbol?_eq_none_iff : ∀ name, t.symbol? name = none ↔ name ∉ names

theorem exists_toNat_eq {i : Nat} (hi : i < maxSymbols) : ∃ s : Symbol, s.toNat = i := by
  refine ⟨UInt16.ofNat i, ?_⟩
  rw [maxSymbols] at hi
  rw [UInt16.toNat_ofNat']
  exact Nat.mod_eq_of_lt hi

theorem nodup_toList (t : SymbolTable) : t.toList.Nodup := by
  rw [List.nodup_iff_getElem?_ne_getElem?]
  intro i j hij hj heq
  -- Both places are numbers, and they would be numbers of one token.
  have hj' : j < maxSymbols := Nat.lt_of_lt_of_le hj t.length_toList_le
  obtain ⟨s, rfl⟩ := exists_toNat_eq (Nat.lt_trans hij hj')
  obtain ⟨s', rfl⟩ := exists_toNat_eq hj'
  have hs' : t.name? s' = some t.toList[s'.toNat] := by
    rw [name?_eq_getElem?, List.getElem?_eq_getElem hj]
  have hs : t.name? s = some t.toList[s'.toNat] := by
    rw [name?_eq_getElem?, heq, ← name?_eq_getElem?, hs']
  rw [name?_inj hs hs'] at hij
  exact Nat.lt_irrefl _ hij

/-- A table holds its tokens. -/
theorem holds_toList (t : SymbolTable) : t.Holds t.toList where
  nodup := t.nodup_toList
  size_eq := t.size_eq_length_toList
  size_le := t.size_le
  exists_toNat_eq _ hi := SymbolTable.exists_toNat_eq (Nat.lt_of_lt_of_le hi t.size_le)
  name?_eq := t.name?_eq_getElem?
  symbol?_eq_some_iff name s := by rw [SymbolTable.symbol?_eq_some_iff, t.name?_eq_getElem?]
  symbol?_eq_none_iff _ := SymbolTable.symbol?_eq_none_iff

/-! ### One token -/

/-- What stands behind a full list makes no difference. -/
theorem take_enroll_of_le (h : maxSymbols ≤ names.length) (texts : List String) :
    (enroll names texts).take maxSymbols = names.take maxSymbols := by
  obtain ⟨rest, hrest⟩ := prefix_enroll names texts
  rw [← hrest, List.take_append_of_le_length h]

/-- A token that is refused leaves the table as it is. -/
theorem intern_of_error {d : Defect} (h : t.intern name = (.error d, t')) : t' = t := by
  -- Only a full table refuses, and it is returned as it was.
  cases hs : t.symbol? name with
  | some s =>
    rw [intern_of_symbol? hs] at h
    cases h
  | none =>
    by_cases room : t.size < maxSymbols
    · rw [intern_of_lt hs room] at h
      cases h
    · rw [intern_of_full hs (Nat.le_of_not_lt room)] at h
      cases h
      rfl

/-- A token comes behind all others if it is new and there is a number for it. -/
theorem toList_intern_snd (t : SymbolTable) (name : String) :
    (t.intern name).2.toList = (enroll t.toList [name]).take maxSymbols := by
  by_cases hroom : (enroll t.toList [name]).length ≤ maxSymbols
  · obtain ⟨s, t', hintern⟩ := exists_intern hroom
    rw [hintern, (toList_intern hintern).1, List.take_of_length_le hroom]
  · -- The list gets too long, so the token is new and no number is left.
    have hnew : name ∉ t.toList := fun hmem =>
      hroom (by rw [enroll_of_mem hmem]; exact t.length_toList_le)
    have hfull : maxSymbols ≤ t.toList.length := by
      rw [enroll_of_notMem hnew, List.length_append, List.length_singleton] at hroom
      omega
    rw [intern_of_full (symbol?_eq_none_iff.2 hnew) (t.size_eq_length_toList ▸ hfull),
      take_enroll_of_le hfull, List.take_of_length_le t.length_toList_le]

theorem extends_intern (t : SymbolTable) (name : String) : t.Extends (t.intern name).2 := by
  cases hintern : t.intern name with
  | mk result t' =>
    cases result with
    | ok s =>
      rw [Extends, (toList_intern hintern).1]
      exact prefix_enroll _ _
    | error d =>
      rw [intern_of_error hintern]
      exact List.prefix_refl _

/-- What a table knows after one more token: what it knew before, and the token if it was
accepted. -/
theorem mem_toList_intern {text : String} :
    name ∈ (t.intern text).2.toList ↔
      name ∈ t.toList ∨ name = text ∧ ∃ s, (t.intern text).1 = .ok s := by
  cases hintern : t.intern text with
  | mk result t' =>
    cases result with
    | ok s =>
      rw [(toList_intern hintern).1, mem_enroll, List.mem_singleton]
      simp
    | error d =>
      rw [intern_of_error hintern]
      simp

/-! ### Histories -/

/-- **A table after a history:** several tokens have been numbered, one after the other, or
refused. -/
def internEach (t : SymbolTable) (names : List String) : SymbolTable :=
  names.foldl (fun t name => (t.intern name).2) t

theorem internEach_cons (t : SymbolTable) (name : String) (names : List String) :
    t.internEach (name :: names) = (t.intern name).2.internEach names := rfl

theorem internEach_append (t : SymbolTable) (names names' : List String) :
    t.internEach (names ++ names') = (t.internEach names).internEach names' :=
  List.foldl_append

theorem internEach_concat (t : SymbolTable) (names : List String) (name : String) :
    t.internEach (names ++ [name]) = ((t.internEach names).intern name).2 :=
  internEach_append t names [name]

/-- **A table holds what has come first.** -/
theorem toList_internEach (t : SymbolTable) (names : List String) :
    (t.internEach names).toList = (enroll t.toList names).take maxSymbols := by
  induction names generalizing t with
  | nil => exact (List.take_of_length_le t.length_toList_le).symm
  | cons name names ih =>
    rw [internEach_cons, ih, toList_intern_snd, enroll_cons t.toList name names]
    by_cases hroom : (enroll t.toList [name]).length ≤ maxSymbols
    · rw [List.take_of_length_le hroom]
    · -- The list is cut at its end, and nothing comes behind the cut in either case.
      have hlength := Nat.le_of_not_le hroom
      have hcut : maxSymbols ≤ ((enroll t.toList [name]).take maxSymbols).length :=
        Nat.le_of_eq (List.length_take_of_le hlength).symm
      rw [take_enroll_of_le hlength, take_enroll_of_le hcut, List.take_take, Nat.min_self]

theorem extends_internEach (t : SymbolTable) (names : List String) :
    t.Extends (t.internEach names) := by
  induction names generalizing t with
  | nil => exact List.prefix_refl _
  | cons name names ih => exact (t.extends_intern name).trans (ih _)

/-- A table knows the tokens that were accepted when they came. -/
theorem mem_toList_internEach {calls : List String} :
    name ∈ (empty.internEach calls).toList ↔
      ∃ before later s, calls = before ++ name :: later ∧
        ((empty.internEach before).intern name).1 = .ok s := by
  induction calls using List.reverseRecOn with
  | nil =>
    constructor
    · intro h
      cases h
    · rintro ⟨before, later, s, hcalls, -⟩
      simp at hcalls
  | append_singleton calls text ih =>
    rw [internEach_concat, mem_toList_intern, ih]
    constructor
    · rintro (⟨before, later, s, rfl, hs⟩ | ⟨rfl, s, hs⟩)
      · refine ⟨before, later ++ [text], s, ?_, hs⟩
        rw [List.append_assoc, List.cons_append]
      · exact ⟨calls, [], s, rfl, hs⟩
    · rintro ⟨before, later, s, hcalls, hs⟩
      -- The token is the last one, or it came before.
      rcases List.eq_nil_or_concat later with rfl | ⟨later, last, rfl⟩
      · obtain ⟨rfl, hlast⟩ := List.append_inj' hcalls rfl
        cases hlast
        exact .inr ⟨rfl, s, hs⟩
      · rw [List.concat_eq_append, ← List.cons_append, ← List.append_assoc] at hcalls
        obtain ⟨rfl, -⟩ := List.append_inj' hcalls rfl
        exact .inl ⟨before, later, s, rfl, hs⟩

/-- The table after a history that began without tokens. -/
def after (calls : List String) : SymbolTable := empty.internEach calls

/-- The first occurrences, as long as there are numbers. -/
def firsts (calls : List String) : List String := calls.eraseDups.take maxSymbols

theorem toList_after (calls : List String) : (after calls).toList = firsts calls := by
  rw [after, toList_internEach, toList_empty, enroll_nil_eq_eraseDups, firsts]

/-- **What holds after every history.** The table holds the tokens that were accepted, in the order
in which they first came; these are the first occurrences, as long as there are numbers. A number
that is given out stands for its token from then on. A token that is known keeps its number and
changes nothing; a new one gets the next number, and if there is none, it is refused and nothing
changes. -/
theorem holds_after (calls : List String) :
    (after calls).Holds (firsts calls) ∧
    (∀ name, name ∈ firsts calls ↔
      ∃ before later s, calls = before ++ name :: later ∧
        ((after before).intern name).1 = .ok s) ∧
    (∀ name s, ((after calls).intern name).1 = .ok s →
      ∀ later, (after (calls ++ name :: later)).name? s = some name) ∧
    (∀ name s, (after calls).symbol? name = some s →
      (after calls).intern name = (.ok s, after calls)) ∧
    ∀ name, (after calls).symbol? name = none →
      ((after calls).size < maxSymbols →
        ∃ s t, (after calls).intern name = (.ok s, t) ∧ s.toNat = (after calls).size ∧
          t.Holds (firsts calls ++ [name])) ∧
      (maxSymbols ≤ (after calls).size →
        (after calls).intern name = (.error .tooManySymbols, after calls)) := by
  refine ⟨toList_after calls ▸ holds_toList _, fun name => ?_, fun name s hs later => ?_,
    fun name s hs => intern_of_symbol? hs, fun name hnew => ⟨fun room => ?_, fun full => ?_⟩⟩
  · rw [← toList_after]
    exact mem_toList_internEach
  · -- The number stands for the token at once, and the table only grows after that.
    have hintern : (after calls).intern name = (.ok s, ((after calls).intern name).2) :=
      Prod.ext hs rfl
    rw [after, internEach_append, internEach_cons]
    exact (extends_internEach _ later).name? (toList_intern hintern).2
  · refine ⟨_, _, intern_of_lt hnew room, toNat_next room, ?_⟩
    have hpush := toList_push hnew room
    rw [toList_after] at hpush
    exact hpush ▸ holds_toList _
  · exact intern_of_full hnew full

/-! ### A full table -/

/-- Strokes, as many as are asked for. -/
def strokes (n : Nat) : String := String.ofList (List.replicate n '|')

private theorem strokes_injective : Function.Injective strokes := by
  intro m n h
  have hlist := congrArg String.toList h
  rw [strokes, strokes, String.toList_ofList, String.toList_ofList] at hlist
  have hlength := congrArg List.length hlist
  rwa [List.length_replicate, List.length_replicate] at hlength

private theorem eraseDups_of_nodup (h : names.Nodup) : names.eraseDups = names := by
  induction names with
  | nil => rfl
  | cons name names ih =>
    obtain ⟨hname, hnames⟩ := List.nodup_cons.1 h
    have hfilter : (names.filter fun other => !other == name) = names := by
      rw [List.filter_eq_self]
      intro other hother
      have hne : other ≠ name := fun heq => hname (heq ▸ hother)
      simpa using hne
    rw [List.eraseDups_cons, hfilter, ih hnames]

/-- The first 65536 numbers of strokes fill a table. Another one is refused, and five strokes still
have the number five. -/
theorem holds_after_strokes :
    let t := after ((List.range maxSymbols).map strokes)
    t.size = 65536 ∧ t.intern (strokes 65536) = (.error .tooManySymbols, t) ∧
      t.intern (strokes 5) = (.ok 5, t) := by
  intro t
  have hnodup : ((List.range maxSymbols).map strokes).Nodup :=
    List.nodup_range.map strokes_injective
  have hlength : ((List.range maxSymbols).map strokes).length = maxSymbols := by
    rw [List.length_map, List.length_range]
  obtain ⟨hholds, -, -, hknown, hnew⟩ := holds_after ((List.range maxSymbols).map strokes)
  rw [firsts, eraseDups_of_nodup hnodup, List.take_of_length_le (Nat.le_of_eq hlength)] at hholds
  have hsize : t.size = maxSymbols := hholds.size_eq.trans hlength
  -- One token more than the table can hold, and it is none of those before.
  have hmore : strokes 65536 ∉ (List.range maxSymbols).map strokes := by
    intro hmem
    obtain ⟨n, hn, heq⟩ := List.mem_map.1 hmem
    rw [strokes_injective heq, List.mem_range] at hn
    exact Nat.lt_irrefl _ hn
  have hfive : t.symbol? (strokes 5) = some 5 := by
    rw [hholds.symbol?_eq_some_iff, List.getElem?_map, List.getElem?_range (by decide)]
    rfl
  refine ⟨hsize, (hnew _ ?_).2 (Nat.le_of_eq hsize.symm), hknown _ _ hfive⟩
  exact (hholds.symbol?_eq_none_iff _).2 hmore

end SymbolTable

end LSystem
