import LSystem.Log.Pattern.Atom

/-!
# Sets of characters in brackets

A set of characters is written between brackets: characters, ranges from one character to
another, named sets such as `[:alpha:]`, and sets in brackets of their own, one after the
other; between such sequences `&&`, `--` and `~~` stand for what the sets have in common,
for the difference and for what is in one of them only.

`closing?` reads a set from behind its bracket to the closing one. What matters of a set is
that it can be read and how deep it nests: a sequence of several items, an operation and a
pair of brackets count one each.
-/

namespace LSystem.Log.Pattern

/-- The names of sets. -/
def setNames : List String :=
  ["alnum", "alpha", "ascii", "blank", "cntrl", "digit", "graph", "lower", "print", "punct",
    "space", "upper", "word", "xdigit"]

/-- The named set that a text begins with: whether it is negated, and what follows it. -/
def namedSet? : List Char → Option (Bool × List Char)
  | '[' :: ':' :: text =>
    let (negated, text) :=
      match text with
      | '^' :: text => (true, text)
      | text => (false, text)
    match text.span (· ≠ ':') with
    | (name, ':' :: ']' :: rest) =>
      if setNames.contains (String.ofList name) then some (negated, rest) else none
    | _ => none
  | _ => none

/-! ### Items -/

/-- The character of an atom that may stand in a set or at an end of a range. A set of bytes
has no characters beyond ASCII. -/
def setChar? (m : Modes) : Atom → Option Char
  | .char c | .byte c => if m.unicode || c.toNat < 128 then some c else none
  | .kind _ | .wordEnd | .textEnd => none

/-- Whether items other than sets in brackets may stand in a set. They may not where case does
not matter, except for bytes. -/
def Modes.allowsItems (m : Modes) : Bool := !(m.caseless && m.unicode)

/-- Whether a set may be all that is not in the brackets. For bytes, that would be bytes that
are no characters. -/
def Modes.allowsNegation (m : Modes) : Bool := m.unicode

/-- The atom that a text begins with within brackets. -/
def setAtom? (m : Modes) : List Char → Option (Atom × List Char)
  | [] => none
  | '\\' :: rest => escaped? m rest
  | c :: rest => some (.char c, rest)

/-- The character that comes next but one, behind the minus sign that a text begins with. In
the verbose mode blanks are left out, and with them the first sign of a comment. -/
def behindMinus (m : Modes) : List Char → Option Char
  | _ :: rest =>
    if m.verbose then
      let behind :=
        match rest.dropWhile Text.isBlank with
        | '#' :: rest => rest.dropWhile Text.isBlank
        | rest => rest
      behind.head? <|> rest.head?
    else rest.head?
  | [] => none

/-- Reads a character, a range or a kind of characters, and gives what follows. -/
def setItem? (m : Modes) (text : List Char) : Option (List Char) := do
  if !m.allowsItems then none
  let (first, rest) ← setAtom? m text
  let rest := m.skip rest
  let next := behindMinus m rest
  -- A minus sign in front of the closing bracket or of another one makes no range.
  if rest.head? = some '-' ∧ next ≠ some ']' ∧ next ≠ some '-' then
    let (last, rest) ← setAtom? m (m.skip rest.tail)
    let first ← setChar? m first
    let last ← setChar? m last
    if first ≤ last then some rest else none
  else
    match first with
    | .kind negated => if !m.unicode ∧ !negated then some rest else none
    | atom => (setChar? m atom).map fun _ => rest

/-! ### Sets -/

/-- How deep a sequence of items nests. -/
def sequenceDepth : List Nat → Nat
  | [] => 0
  | [d] => d
  | ds => ds.foldl max 0 + 1

/-- A set that is being read: how deep the operations nest that have been read, if there are
any, and how deep the items do that have been read since, the last one first. -/
structure OpenSet where
  operations : Option Nat := none
  items : List Nat := []
deriving DecidableEq, Repr

namespace OpenSet

/-- How deep the set nests as far as it has been read. -/
def depth (s : OpenSet) : Nat :=
  match s.operations with
  | none => sequenceDepth s.items
  | some d => max d (sequenceDepth s.items) + 1

/-- Adds an item. -/
def add (s : OpenSet) (depth : Nat) : OpenSet := { s with items := depth :: s.items }

/-- Adds an operation, on whose left everything stands that has been read. -/
def operate (s : OpenSet) : OpenSet := ⟨some s.depth, []⟩

end OpenSet

/-- Takes the minus signs that a text begins with into a set, and gives what follows. -/
def leadingMinuses (m : Modes) (s : OpenSet) : List Char → OpenSet × List Char
  | [] => (s, [])
  | c :: rest => if c = '-' then leadingMinuses m (s.add 0) (m.skip rest) else (s, c :: rest)
termination_by text => text.length
decreasing_by exact Nat.lt_succ_of_le (m.length_skip rest)

/-- Opens a set behind its bracket. Minus signs that come first are characters of the set, and
so is a closing bracket. -/
def opening? (m : Modes) (text : List Char) : Option (OpenSet × List Char) := do
  let text ←
    match m.skip text with
    | '^' :: rest => if m.allowsNegation then some (m.skip rest) else none
    | rest => some rest
  let (s, text) := leadingMinuses m {} text
  let (s, text) :=
    match s.items, text with
    | [], ']' :: rest => (s.add 0, m.skip rest)
    | _, _ => (s, text)
  if s.items.isEmpty || m.allowsItems then return (s, text) else none

/-- Reads on in a set, around which the sets in `outer` are open, to the bracket that closes
the outermost one. Gives how deep that one nests, and what follows it. Every round takes a
character, so there need be no more rounds than characters. -/
def closing? (m : Modes) (outer : List OpenSet) (s : OpenSet) :
    (rounds : Nat) → List Char → Option (Nat × List Char)
  | 0, _ => none
  | rounds + 1, text =>
    match m.skip text with
    | [] => none
    | ']' :: rest =>
      match outer with
      | [] => some (s.depth + 1, rest)
      | o :: outer => closing? m outer (o.add (s.depth + 1)) rounds rest
    | '&' :: '&' :: rest | '-' :: '-' :: rest | '~' :: '~' :: rest =>
      closing? m outer s.operate rounds rest
    | '[' :: rest =>
      match namedSet? ('[' :: rest) with
      | some (negated, rest) =>
        if m.allowsItems && (!negated || m.allowsNegation) then
          closing? m outer (s.add 0) rounds rest
        else none
      | none => do
        let (inner, rest) ← opening? m rest
        closing? m (s :: outer) inner rounds rest
    | text => do closing? m outer (s.add 0) rounds (← setItem? m text)

end LSystem.Log.Pattern
