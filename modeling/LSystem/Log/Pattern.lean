import LSystem.Log.Pattern.Brackets
import LSystem.Text.Alphanumeric

/-!
# Patterns

A directive may ask for the value of a field by a pattern, a regular expression. There are
no spans here whose fields could match one, but a text that is no pattern makes the filter
unreadable; so all that matters is which texts are patterns (`isPattern`).

A pattern is read from left to right. The groups that are open are kept in a list, each
with what had been read before it, and the modes change where the pattern says so. A
pattern stands between braces and commas and has neither in it, so a counted repetition
does not come to its end. Patterns that nest too deep are refused (`maxDepth`).
-/

namespace LSystem.Log.Pattern

/-! ### What has been read -/

/-- A part of a sequence: how deep it nests, and whether it can be repeated. -/
structure Item where
  depth : Nat
  repeatable : Bool := true
deriving DecidableEq, Repr

/-- A group that is being read: the modes that hold in it, how deep the alternatives nest that
have been read, and the items of the last one, the last item first. -/
structure OpenGroup where
  modes : Modes := {}
  alternatives : List Nat := []
  items : List Item := []
deriving DecidableEq, Repr

namespace OpenGroup

/-- How deep the last alternative nests. -/
def lastDepth (g : OpenGroup) : Nat := sequenceDepth (g.items.map (·.depth))

/-- How deep the group nests as far as it has been read. -/
def depth (g : OpenGroup) : Nat :=
  if g.alternatives.isEmpty then g.lastDepth
  else (g.lastDepth :: g.alternatives).foldl max 0 + 1

/-- Adds an item. -/
def add (g : OpenGroup) (item : Item) : OpenGroup := { g with items := item :: g.items }

/-- Begins another alternative. -/
def alternate (g : OpenGroup) : OpenGroup :=
  { g with alternatives := g.lastDepth :: g.alternatives, items := [] }

/-- Repeats the last item. -/
def repeatLast? (g : OpenGroup) : Option OpenGroup :=
  match g.items with
  | item :: items =>
    if item.repeatable then some { g with items := ⟨item.depth + 1, true⟩ :: items } else none
  | [] => none

end OpenGroup

/-- A pattern that is being read: the innermost group, the groups around it, and the names of
all groups. -/
structure State where
  group : OpenGroup := {}
  outer : List OpenGroup := []
  names : List (List Char) := []
deriving DecidableEq, Repr

namespace State

/-- Adds an item to the innermost group. -/
def add (s : State) (item : Item) : State := { s with group := s.group.add item }

/-- Opens a group with the given modes. -/
def enter (s : State) (modes : Modes) : State :=
  { s with group := { modes }, outer := s.group :: s.outer }

/-- Closes the innermost group. The modes are again those from before it. -/
def leave? (s : State) : Option State :=
  match s.outer with
  | o :: outer => some { s with group := o.add ⟨s.group.depth + 1, true⟩, outer }
  | [] => none

end State

/-! ### The beginning of a group -/

/-- The name of a group and what follows it, behind the opening bracket of the name. -/
def name? (text : List Char) : Option (List Char × List Char) :=
  match text.span (· ≠ '>') with
  | (c :: cs, _ :: rest) =>
    let isFirst := c = '_' || Text.alphabetic.holds c
    let areOthers := cs.all fun c =>
      c = '_' || c = '.' || c = '[' || c = ']' || Text.isAlphanumeric c
    if isFirst && areOthers then some (c :: cs, rest) else none
  | _ => none

/-- The letters for modes, and the sign in front of those that are to be left. -/
def flagLetters : List Char := ['-', 'i', 'm', 's', 'U', 'u', 'R', 'x']

/-- Reads letters for modes, behind those in `seen`, the last one first. Gives the letters,
whether a group begins with them, and what follows. No letter may come twice, and the last
one may not be the sign. -/
def flags? (seen : List Char) : List Char → Option (List Char × Bool × List Char)
  | [] => none
  | c :: rest =>
    if c = ':' ∨ c = ')' then
      if seen.head? = some '-' then none
      else if c = ')' ∧ seen.isEmpty then none
      else some (seen.reverse, c = ':', rest)
    else if flagLetters.contains c ∧ !seen.contains c then flags? (c :: seen) rest
    else none

/-- A mode after letters: entered, left, or as it was. -/
def modeAfter (letters : List Char) (letter : Char) (before : Bool) : Bool :=
  let (entered, left) := letters.span (· ≠ '-')
  if entered.contains letter then true else if left.contains letter then false else before

/-- The modes after letters. Modes that do not matter here are not kept. -/
def Modes.after (m : Modes) (letters : List Char) : Modes where
  verbose := modeAfter letters 'x' m.verbose
  caseless := modeAfter letters 'i' m.caseless
  unicode := modeAfter letters 'u' m.unicode

/-- Reads what stands behind an opening parenthesis: the name of a group, or letters for the
modes in a group, or letters alone, which then hold for the rest of the group around them. -/
def openGroup? (s : State) (text : List Char) : Option (State × List Char) :=
  let m := s.group.modes
  let named (text : List Char) : Option (State × List Char) := do
    let (name, rest) ← name? text
    if s.names.contains name then none
    else return ({ s.enter m with names := name :: s.names }, rest)
  match m.skip text with
  | '?' :: 'P' :: '<' :: rest => named rest
  | '?' :: '<' :: rest => named rest
  | '?' :: rest => do
    let (letters, isGroup, rest) ← flags? [] rest
    let modes := m.after letters
    if isGroup then return (s.enter modes, rest)
    else return ({ s with group := { s.group.add ⟨0, false⟩ with modes } }, rest)
  | rest => some (s.enter m, rest)

/-! ### The whole pattern -/

/-- How deep a pattern may nest. -/
def maxDepth : Nat := 250

/-- A text without the question mark that it may begin with. -/
def dropQuestionMark : List Char → List Char
  | '?' :: rest => rest
  | rest => rest

/-- Reads what begins with the character `c`. Sets in brackets may take as many rounds as
given. -/
def next? (s : State) (rounds : Nat) (c : Char) (rest : List Char) :
    Option (State × List Char) :=
  let m := s.group.modes
  match c with
  | '(' => openGroup? s rest
  | ')' => s.leave?.map (·, rest)
  | '|' => some ({ s with group := s.group.alternate }, rest)
  | '[' => do
    let (set, rest) ← opening? m rest
    let (depth, rest) ← closing? m [] set rounds rest
    return (s.add ⟨depth, true⟩, rest)
  | '?' | '*' | '+' =>
    -- A question mark behind a repetition belongs to it.
    s.group.repeatLast?.map fun group => ({ s with group }, dropQuestionMark rest)
  | '\x7b' => none
  | '\\' => do
    let (atom, rest) ← escaped? m rest
    if m.allows atom then return (s.add ⟨0, true⟩, rest) else none
  | '.' => if m.allowsDot then some (s.add ⟨0, true⟩, rest) else none
  | '^' | '$' => some (s.add ⟨0, true⟩, rest)
  | c => if m.allows (.char c) then some (s.add ⟨0, true⟩, rest) else none

/-- Whether a text goes on as a pattern to its end. Every round takes a character, so there
need be no more rounds than characters, and one for the end. -/
def goesOn (s : State) : (rounds : Nat) → List Char → Bool
  | 0, _ => false
  | rounds + 1, text =>
    match s.group.modes.skip text with
    | [] => s.outer.isEmpty && s.group.depth ≤ maxDepth
    | c :: rest =>
      match next? s rounds c rest with
      | some (s, rest) => goesOn s rounds rest
      | none => false

end Pattern

/-- **Whether a text is a pattern.** -/
def isPattern (text : List Char) : Bool := Pattern.goesOn {} (text.length + 1) text

end LSystem.Log
