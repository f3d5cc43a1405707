import LSystem.Json.Lexeme
import LSystem.Json.Value

/-!
# What a text spells, as far as it goes

A `Tree` is a JSON value with its faults in their places. Where the text stops being
JSON, the tree has a `broken` leaf or a list or object whose `Ending` says what stands
there instead of the closing bracket; above a broken leaf everything is `cut`, since
nothing more of it was read. A reader that walks the tree in the order of the text meets
first whatever is wrong first, be it the text or the data.

The tree is built by a machine that takes one lexeme at a time (`State.step`). It keeps
the lists and objects that are open, so that nesting costs it no recursion, and what
must come next is its state. `Document.ofText` runs it over the lexemes of a text.
-/

namespace LSystem.Json

open LSystem.Decimal

/-- How a list or an object comes to its end. -/
inductive Ending where
  | closed
  /-- A comma, and then the closing bracket. -/
  | commaClosed
  | endOfText
  /-- A comma, and then the end of the text. -/
  | commaEndOfText
  /-- Something else where a comma or the closing bracket has to stand. -/
  | wrongNext
  /-- Something else where a key has to stand. -/
  | wrongKey
  /-- A key that does not come to its end. -/
  | brokenKey (read skip : Fault)
  /-- The last element is broken off. -/
  | cut
deriving DecidableEq

/-- What a text spells, with its faults in their places. -/
inductive Tree where
  | null
  | bool (b : Bool)
  | number (n : Numeral)
  | string (s : Spelling)
  | list (items : List Tree) (ending : Ending)
  | object (members : List (Spelling × Tree)) (ending : Ending)
  | broken (b : Break)

/-- A text as a tree, and whether more than blanks follow the tree. -/
structure Document where
  root : Tree
  trailing : Bool

/-! ### The machine -/

/-- A list or an object that is open, with what it holds so far, the last element first;
in an object a value is awaited for `key`. -/
inductive Level where
  | list (items : List Tree)
  | object (members : List (Spelling × Tree)) (key : Spelling)

/-- What has been read, and with it what must come next. The innermost open level comes
first. -/
inductive State where
  /-- A value has to begin. -/
  | value (outer : List Level)
  /-- A list has been opened. -/
  | listStart (outer : List Level)
  /-- An item of a list has been read. -/
  | listNext (items : List Tree) (outer : List Level)
  /-- An object has been opened. -/
  | objectStart (outer : List Level)
  /-- A comma has been read in an object. -/
  | key (members : List (Spelling × Tree)) (outer : List Level)
  /-- A key has been read. -/
  | colon (members : List (Spelling × Tree)) (key : Spelling) (outer : List Level)
  /-- A member of an object has been read. -/
  | objectNext (members : List (Spelling × Tree)) (outer : List Level)
  /-- The whole tree has been read. -/
  | whole (root : Tree)
  /-- The text is at odds with JSON; nothing more is read. -/
  | ended (document : Document)

namespace State

/-- A tree in the place where a value was awaited. -/
def place (t : Tree) : List Level → State
  | [] => .whole t
  | .list items :: outer => .listNext (t :: items) outer
  | .object members name :: outer => .objectNext ((name, t) :: members) outer

/-- A level around a tree that is broken off. -/
def cutLevel (t : Tree) : Level → Tree
  | .list items => .list (t :: items).reverse .cut
  | .object members name => .object ((name, t) :: members).reverse .cut

/-- A tree that is broken off, in the place where a value was awaited. -/
def stop (t : Tree) (outer : List Level) : State := .ended ⟨outer.foldl cutLevel t, false⟩

/-- A list that ends as given. -/
def list (items : List Tree) (ending : Ending) : Tree := .list items.reverse ending

/-- An object that ends as given. -/
def object (members : List (Spelling × Tree)) (ending : Ending) : Tree :=
  .object members.reverse ending

/-- A value begins with the lexeme, or nothing does. -/
def begin (outer : List Level) : Lexeme → State
  | .openList => .listStart outer
  | .openObject => .objectStart outer
  | .null => place .null outer
  | .bool b => place (.bool b) outer
  | .number n => place (.number n) outer
  | .string s => place (.string s) outer
  | .brokenString read skip => stop (.broken ⟨read, skip, read⟩) outer
  | .broken b => stop (.broken b) outer
  | .closeList | .closeObject | .comma | .colon => stop (.broken (.same .wantedValue)) outer

/-- A key begins with the lexeme, or nothing does. -/
def beginKey (members : List (Spelling × Tree)) (outer : List Level) : Lexeme → State
  | .string name => .colon members name outer
  | .brokenString read skip => stop (object members (.brokenKey read skip)) outer
  | _ => stop (object members .wrongKey) outer

/-- **One lexeme.** -/
def step : State → Lexeme → State
  | .value (.list items :: outer), .closeList =>
    -- Only a comma leads here with a list around: the list ends behind it.
    stop (list items .commaClosed) outer
  | .value outer, l => begin outer l
  | .listStart outer, .closeList => place (list [] .closed) outer
  | .listStart outer, l => begin (.list [] :: outer) l
  | .listNext items outer, .closeList => place (list items .closed) outer
  | .listNext items outer, .comma => .value (.list items :: outer)
  | .listNext items outer, _ => stop (list items .wrongNext) outer
  | .objectStart outer, .closeObject => place (object [] .closed) outer
  | .objectStart outer, l => beginKey [] outer l
  | .key members outer, .closeObject => stop (object members .commaClosed) outer
  | .key members outer, l => beginKey members outer l
  | .colon members name outer, .colon => .value (.object members name :: outer)
  | .colon members name outer, _ =>
    stop (.broken (.same .wantedColon)) (.object members name :: outer)
  | .objectNext members outer, .closeObject => place (object members .closed) outer
  | .objectNext members outer, .comma => .key members outer
  | .objectNext members outer, _ => stop (object members .wrongNext) outer
  | .whole root, _ => .ended ⟨root, true⟩
  | .ended document, _ => .ended document

/-- The document in a state without open levels. -/
def document : State → Document
  | .whole root => ⟨root, false⟩
  | .ended document => document
  | _ => ⟨.broken (.same .endInValue), false⟩

/-- The end of the text. -/
def finish : State → Document
  | .value outer => (stop (.broken (.same .endInValue)) outer).document
  | .listStart outer => (stop (list [] .endOfText) outer).document
  | .listNext items outer => (stop (list items .endOfText) outer).document
  | .objectStart outer => (stop (object [] .endOfText) outer).document
  | .key members outer => (stop (object members .commaEndOfText) outer).document
  | .colon members name outer =>
    (stop (.broken (.same .endInObject)) (.object members name :: outer)).document
  | .objectNext members outer => (stop (object members .endOfText) outer).document
  | .whole root => ⟨root, false⟩
  | .ended document => document

end State

/-- **The tree of a text.** -/
def Document.ofText (text : String) : Document :=
  ((lexemes text).foldl State.step (.value [])).finish

/-! ### Trees without faults -/

mutual

/-- The value that a tree without faults is. -/
def Tree.value? : Tree → Option Value
  | .null => some .null
  | .bool b => some (.bool b)
  | .number n => some (.number n)
  | .string (.ok s) => some (.string s)
  | .string (.error _) => none
  | .list items ending => if ending = .closed then itemValues? [] items else none
  | .object members ending => if ending = .closed then memberValues? [] members else none
  | .broken _ => none

/-- The list of the values in `done`, the last one first, and those of the trees. -/
def itemValues? (done : List Value) : List Tree → Option Value
  | [] => some (.list done.reverse)
  | t :: ts =>
    match t.value? with
    | some v => itemValues? (v :: done) ts
    | none => none

/-- The object of the members in `done`, the last one first, and those of the trees. -/
def memberValues? (done : List (String × Value)) : List (Spelling × Tree) → Option Value
  | [] => some (.object done.reverse)
  | (key, t) :: ms =>
    match key, t.value? with
    | .ok key, some v => memberValues? ((key, v) :: done) ms
    | _, _ => none

end

/-- **The value that a text spells,** if it spells one and nothing else. -/
def Value.ofText? (text : String) : Option Value :=
  let document := Document.ofText text
  if document.trailing then none else document.root.value?

end LSystem.Json
