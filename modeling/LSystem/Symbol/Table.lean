import LSystem.Error
import LSystem.Text.Character
import Std.Data.HashMap

/-!
# Symbol tables

Tokens are numbered in the order in which they first appear, so that words can be lists
of small numbers. A table goes both ways: `name?` from a number to its token, `symbol?`
from a token to its number. The two are inverse to each other by a field of the type, and
a table never holds more tokens than there are numbers.

`intern` numbers a token. A token that has a number keeps it (`intern_of_symbol?`); a new
one takes the next number, or is refused by a full table.
-/

namespace LSystem

/-- The number of a token. -/
abbrev Symbol := UInt16

/-- **A symbol table.** -/
structure SymbolTable where
  /-- The tokens in the order of their numbers. -/
  names : Array String
  /-- The numbers of the tokens. -/
  numbers : Std.HashMap String Symbol
  size_le : names.size ≤ maxSymbols
  numbers_iff : ∀ (name : String) (s : Symbol),
    numbers[name]? = some s ↔ names[s.toNat]? = some name

namespace SymbolTable

/-- A table without tokens. -/
def empty : SymbolTable where
  names := #[]
  numbers := ∅
  size_le := Nat.zero_le _
  numbers_iff := by simp

/-- The number of tokens in a table. -/
def size (t : SymbolTable) : Nat := t.names.size

/-- The token of a number. -/
def name? (t : SymbolTable) (s : Symbol) : Option String := t.names[s.toNat]?

/-- The number of a token. -/
def symbol? (t : SymbolTable) (name : String) : Option Symbol := t.numbers[name]?

/-- Numbers and tokens go together both ways. -/
theorem symbol?_eq_some_iff {t : SymbolTable} {name : String} {s : Symbol} :
    t.symbol? name = some s ↔ t.name? s = some name :=
  t.numbers_iff name s

/-- A token without a number is not in the table. -/
theorem notMem_of_symbol?_eq_none {t : SymbolTable} {name : String}
    (h : t.symbol? name = none) {i : Nat} : t.names[i]? ≠ some name := by
  intro hi
  -- A place of the table is a number, since there are no more places than numbers.
  obtain ⟨hlt, -⟩ := Array.getElem?_eq_some_iff.1 hi
  have hnat : (UInt16.ofNat i).toNat = i := by
    have := t.size_le
    simp only [maxSymbols] at this
    simp only [UInt16.toNat_ofNat', Nat.reducePow]
    omega
  have := (t.numbers_iff name (UInt16.ofNat i)).2 (by rw [hnat]; exact hi)
  rw [symbol?, this] at h
  cases h

/-- The next number of a table with room stands for the place behind its tokens. -/
theorem toNat_next {t : SymbolTable} (room : t.size < maxSymbols) :
    (UInt16.ofNat t.size).toNat = t.names.size := by
  simp only [size, maxSymbols] at room
  simp only [size, UInt16.toNat_ofNat', Nat.reducePow]
  omega

/-- With one more token, numbers and tokens still go together both ways. -/
private theorem numbers_iff_push {t : SymbolTable} {name : String} (new : t.symbol? name = none)
    (room : t.size < maxSymbols) (other : String) (s : Symbol) :
    (t.numbers.insert name (UInt16.ofNat t.size))[other]? = some s ↔
      (t.names.push name)[s.toNat]? = some other := by
  have hnext := toNat_next room
  -- Both tables have one entry more, so both sides fall into the new token and the old ones.
  rw [Std.HashMap.getElem?_insert, Array.getElem?_push]
  by_cases hname : name = other
  · -- The new token: it has the next number, and stands nowhere else.
    subst hname
    simp only [beq_self_eq_true, ↓reduceIte, Option.some.injEq]
    constructor
    · rintro rfl
      simp [hnext]
    · intro h
      split at h
      · next hs => exact UInt16.toNat.inj (hnext.trans hs.symm)
      · exact absurd h (notMem_of_symbol?_eq_none new)
  · -- The other tokens: they keep their numbers, and none of them has the next one.
    simp only [beq_iff_eq, hname, ↓reduceIte]
    rw [t.numbers_iff]
    split
    · next hs =>
      constructor
      · intro h
        rw [hs] at h
        simp at h
      · intro h
        exact absurd (Option.some.inj h) hname
    · rfl

/-- A table with one more token. The parts are taken out of the table before they change, so
that they change in place. -/
def push (t : SymbolTable) (name : String) (new : t.symbol? name = none)
    (room : t.size < maxSymbols) : SymbolTable :=
  match t, numbers_iff_push new room, room with
  | ⟨names, numbers, _, _⟩, numbers_iff, room =>
    let next := UInt16.ofNat names.size
    { names := names.push name
      numbers := numbers.insert name next
      size_le := by rw [Array.size_push]; exact room
      numbers_iff }

/-- **Numbers a token,** and gives the table in which it has the number. A table that has no
number left stays as it is. -/
def intern (t : SymbolTable) (name : String) : Except Defect Symbol × SymbolTable :=
  match h : t.symbol? name with
  | some s => (.ok s, t)
  | none =>
    if room : t.size < maxSymbols then (.ok (UInt16.ofNat t.size), t.push name h room)
    else (.error .tooManySymbols, t)

/-- A token that has a number keeps it, and nothing changes. -/
theorem intern_of_symbol? {t : SymbolTable} {name : String} {s : Symbol}
    (h : t.symbol? name = some s) : t.intern name = (.ok s, t) := by
  unfold intern
  split
  · next h' => rw [h] at h'; cases h'; rfl
  · next h' => rw [h] at h'; cases h'

/-- A new token takes the next number, as long as there is one. -/
theorem intern_of_lt {t : SymbolTable} {name : String} (h : t.symbol? name = none)
    (room : t.size < maxSymbols) :
    t.intern name = (.ok (UInt16.ofNat t.size), t.push name h room) := by
  unfold intern
  split
  · next h' => rw [h] at h'; cases h'
  · simp [room]

/-- A full table refuses new tokens and stays as it is. -/
theorem intern_of_full {t : SymbolTable} {name : String} (h : t.symbol? name = none)
    (full : maxSymbols ≤ t.size) : t.intern name = (.error .tooManySymbols, t) := by
  unfold intern
  split
  · next h' => rw [h] at h'; cases h'
  · simp [Nat.not_lt.2 full]

/-! ### Tokens -/

/-- Whether a text is a single token: it is not empty, and there is no white space in it. -/
def isToken (text : String) : Bool := !text.isEmpty && !text.toList.any Text.isBlank

/-- Numbers a text that has to be a token. -/
def internToken (t : SymbolTable) (text : String) : Except Defect Symbol × SymbolTable :=
  if isToken text then t.intern text else (.error (.notAToken text), t)

/-- Numbers several tokens, from the first to the last; the numbers in `done` come before
theirs, the last one first. -/
def internOnto (done : List Symbol) (t : SymbolTable) :
    List String → Except Defect (List Symbol × SymbolTable)
  | [] => .ok (done.reverse, t)
  | text :: texts =>
    match t.internToken text with
    | (.ok s, t) => internOnto (s :: done) t texts
    | (.error d, _) => .error d

/-- **Numbers several tokens,** from the first to the last. -/
def internTokens (t : SymbolTable) (texts : List String) :
    Except Defect (List Symbol × SymbolTable) := t.internOnto [] texts

end SymbolTable

end LSystem
