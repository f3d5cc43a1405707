import LSystem.Json.Number
import LSystem.Json.Tree

/-!
# Reading data out of a tree

A `Reader` takes data of one kind from a tree, or reports the first fault that it meets
on its way. Readers walk a tree in the order of its text, so that of two faults the
earlier one is reported, whether the text or the data is at fault. In particular a
reader looks at what closes a list or an object only behind the elements, and a tree of
the wrong kind is reported without a look inside.

Two walks want no data. `Tree.check` reads a tree of any kind, and refuses nesting
beyond a limit. `Tree.skip` passes over a tree that nobody needs; it minds neither
nesting nor the range of numbers nor surrogates, and it words some faults differently.
-/

namespace LSystem.Json

open LSystem.Decimal

/-- A way to read data of one kind. -/
abbrev Reader (α : Type) := Tree → Except Fault α

/-! ### Endings -/

namespace Ending

/-- What a reader of a list finds behind the last item. -/
def readList : Ending → Except Fault Unit
  | .commaClosed => .error .trailingComma
  | .endOfText => .error .endInList
  | .wrongNext => .error .wantedListEnd
  | _ => .ok ()

/-- What a reader of an object finds behind the last member. -/
def readObject : Ending → Except Fault Unit
  | .commaClosed => .error .trailingComma
  | .endOfText => .error .endInObject
  | .commaEndOfText => .error .endInValue
  | .wrongNext => .error .wantedObjectEnd
  | .wrongKey => .error .wantedKey
  | .brokenKey read _ => .error read
  | .closed | .cut => .ok ()

/-- What stands behind the last item that a reader of a fixed number of items takes. -/
def endList : Ending → Except Fault Unit
  | .commaClosed => .error .trailingComma
  | .endOfText => .error .endInList
  | .wrongNext => .error .trailingCharacters
  | _ => .ok ()

/-- What is found behind the last item of a list that is passed over. -/
def skipList : Ending → Except Fault Unit
  | .commaClosed => .error .wantedValue
  | .endOfText => .error .endInList
  | .wrongNext => .error .wantedListEnd
  | _ => .ok ()

/-- What is found behind the last member of an object that is passed over. -/
def skipObject : Ending → Except Fault Unit
  | .commaClosed | .wrongKey => .error .wantedKey
  | .endOfText | .commaEndOfText => .error .endInObject
  | .wrongNext => .error .wantedObjectEnd
  | .brokenKey _ skip => .error skip
  | .closed | .cut => .ok ()

end Ending

/-! ### Walks that want no data -/

/-- The number of lists and objects that may stand inside one another. -/
def maxDepth : Nat := 127

mutual

/-- Reads a tree of any kind that stands inside `depth` lists and objects. -/
def Tree.check (depth : Nat) : Tree → Except Fault Unit
  | .null | .bool _ => .ok ()
  | .number n => (Number.ofNumeral n).map fun _ => ()
  | .string s => s.map fun _ => ()
  | .list items ending =>
    if maxDepth ≤ depth then .error .tooDeep else checkItems (depth + 1) ending items
  | .object members ending =>
    if maxDepth ≤ depth then .error .tooDeep else checkMembers (depth + 1) ending members
  | .broken b => .error b.read

/-- Reads the items of a list. -/
def checkItems (depth : Nat) (ending : Ending) : List Tree → Except Fault Unit
  | [] => ending.readList
  | t :: ts =>
    match t.check depth with
    | .ok _ => checkItems depth ending ts
    | .error f => .error f

/-- Reads the members of an object. -/
def checkMembers (depth : Nat) (ending : Ending) : List (Spelling × Tree) → Except Fault Unit
  | [] => ending.readObject
  | (name, t) :: ms =>
    match name with
    | .error f => .error f
    | .ok _ =>
      match t.check depth with
      | .ok _ => checkMembers depth ending ms
      | .error f => .error f

end

mutual

/-- Passes over a tree. -/
def Tree.skip : Tree → Except Fault Unit
  | .null | .bool _ | .number _ | .string _ => .ok ()
  | .list items ending => skipItems ending items
  | .object members ending => skipMembers ending members
  | .broken b => .error b.skip

/-- Passes over the items of a list. -/
def skipItems (ending : Ending) : List Tree → Except Fault Unit
  | [] => ending.skipList
  | t :: ts =>
    match t.skip with
    | .ok _ => skipItems ending ts
    | .error f => .error f

/-- Passes over the members of an object. -/
def skipMembers (ending : Ending) : List (Spelling × Tree) → Except Fault Unit
  | [] => ending.skipObject
  | (_, t) :: ms =>
    match t.skip with
    | .ok _ => skipMembers ending ms
    | .error f => .error f

end

/-! ### Plain data -/

/-- The fault of a tree that is not of the kind that was wanted. A number or a string is read
before its kind is looked at. -/
def Tree.mismatch (wanted : String) : Tree → Fault
  | .null => .wrongKind .null wanted
  | .bool b => .wrongKind (.bool b) wanted
  | .number n =>
    match Number.ofNumeral n with
    | .ok x => .wrongKind x.found wanted
    | .error f => f
  | .string (.ok s) => .wrongKind (.string s) wanted
  | .string (.error f) => f
  | .list _ _ => .wrongKind .list wanted
  | .object _ _ => .wrongKind .object wanted
  | .broken b => b.read

/-- A text. -/
def readString : Reader String
  | .string s => s
  | t => .error (t.mismatch "a string")

/-- A number, rounded to single precision. -/
def readSingle : Reader Float32
  | .number n => (Number.ofNumeral n).map Number.toSingle
  | t => .error (t.mismatch "f32")

/-- A natural number up to `max`, of the kind called `wanted`. -/
def readNatural (max : Nat) (wanted : String) : Reader Nat
  | .number n => do
    match ← Number.ofNumeral n with
    | .natural k =>
      if k.toNat ≤ max then return k.toNat else throw (.wrongValue (.integer k.toNat) wanted)
    | .negative i => throw (.wrongValue (.integer i.toInt) wanted)
    | x => throw (.wrongKind x.found wanted)
  | t => .error (t.mismatch wanted)

/-- A natural number of 32 bits. -/
def readUInt32 : Reader UInt32 := fun t =>
  (readNatural 4294967295 "u32" t).map UInt32.ofNat

/-- A natural number of 64 bits. -/
def readUInt64 (wanted : String) : Reader UInt64 := fun t =>
  (readNatural Number.maxNatural wanted t).map UInt64.ofNat

/-- Nothing: the value `null`. -/
def readNull : Reader Unit
  | .null => .ok ()
  | t => .error (t.mismatch "unit")

/-- A list of data of one kind. -/
def readList {α : Type} (item : Reader α) : Reader (List α)
  | .list items ending => do
    let data ← items.mapM item
    ending.readList
    return data
  | t => .error (t.mismatch "a sequence")

/-- An object with any keys, as pairs in the order of the text. -/
def readPairs {α : Type} (member : Reader α) : Reader (List (String × α))
  | .object members ending => do
    let data ← members.mapM fun (name, t) => do return (← name, ← member t)
    ending.readObject
    return data
  | t => .error (t.mismatch "a map")

/-! ### Records -/

/-- A part of a record: how it is called, whether it has to be given, and how it is read
into a record. -/
structure FieldSpec (σ : Type) where
  name : String
  required : Bool
  read : Tree → σ → Except Fault σ

namespace FieldSpec

variable {σ α : Type}

/-- A field that has to be given. -/
def mandatory (name : String) (read : Reader α) (set : α → σ → σ) : FieldSpec σ :=
  ⟨name, true, fun t s => (read t).map (set · s)⟩

/-- A field that keeps its default when it is not given. -/
def optional (name : String) (read : Reader α) (set : α → σ → σ) : FieldSpec σ :=
  ⟨name, false, fun t s => (read t).map (set · s)⟩

end FieldSpec

/-- Reads a list whose items are the fields of a record in their order. Fields that are not
required may be left out at the end; `index` items have been read. -/
def readPositions {σ : Type} (wanted : String) (ending : Ending) :
    (index : Nat) → List (FieldSpec σ) → List Tree → σ → Except Fault σ
  | _, [], [], s => ending.endList.map fun _ => s
  | _, [], _ :: _, _ => .error .trailingCharacters
  | index, f :: fs, [], s => do
    -- The list has to come to its end before its length is looked at.
    ending.readList
    if f.required then throw (.wrongLength index wanted)
    readPositions wanted ending index fs [] s
  | index, f :: fs, t :: ts, s => do readPositions wanted ending (index + 1) fs ts (← f.read t s)

/-- A kind of record. -/
structure Record (σ : Type) where
  /-- What messages call it. -/
  title : String
  /-- Whether unknown fields are a fault; otherwise they are passed over. -/
  strict : Bool
  /-- A record with the defaults in it, and anything in the required fields. -/
  blank : σ
  fields : List (FieldSpec σ)

namespace Record

variable {σ : Type}

/-- The words for a list of the fields. -/
def asList (r : Record σ) : String :=
  r.title ++ " with " ++ natText r.fields.length
    ++ if r.fields.length = 1 then " element" else " elements"

/-- Reads one member of an object into a record, where the fields in `seen` have been read. -/
def readMember (r : Record σ) (state : σ × List String) (member : Spelling × Tree) :
    Except Fault (σ × List String) := do
  let name ← member.1
  match r.fields.find? (·.name = name) with
  | some f =>
    if state.2.contains name then throw (.repeatedField name)
    return (← f.read member.2 state.1, name :: state.2)
  | none =>
    if r.strict then throw (.unknownField name (r.fields.map (·.name)))
    member.2.skip
    return state

/-- **A record,** written as an object of its fields or as a list of them in their order. -/
def read (r : Record σ) : Reader σ
  | .object members ending => do
    let (data, seen) ← members.foldlM r.readMember (r.blank, [])
    ending.readObject
    match r.fields.find? fun f => f.required && !seen.contains f.name with
    | some f => throw (.missingField f.name)
    | none => return data
  | .list items ending => readPositions r.asList ending 0 r.fields items r.blank
  | t => .error (t.mismatch r.title)

end Record

/-! ### Alternatives -/

/-- An alternative: one that its name says all about, or one that carries data. -/
inductive Alternative (α : Type) where
  | plain (value : α)
  | carrying (read : Reader α)

/-- The alternative of a name. -/
def alternative? {α : Type} (known : List (String × Alternative α)) (name : String) :
    Except Fault (Alternative α) :=
  match known.lookup name with
  | some a => .ok a
  | none => .error (.unknownName name (known.map (·.1)))

/-- **One of several alternatives.** It is written as its name, or as an object with the name
as its only key; the value is then the data that it carries, or `null`. -/
def readAlternative {α : Type} (known : List (String × Alternative α)) : Reader α
  | .string s => do
    match ← alternative? known (← s) with
    | .plain value => return value
    | .carrying _ => throw (.wrongKind .bareName "newtype variant")
  | .object ((name, t) :: others) ending => do
    let value ←
      match ← alternative? known (← name) with
      | .plain value => (readNull t).map fun _ => value
      | .carrying read => read t
    -- Behind the only member the object has to be closed.
    match others, ending with
    | [], .closed => return value
    | [], .endOfText => throw .endInObject
    | _, _ => throw .wantedValue
  | .object [] ending =>
    match ending with
    | .endOfText => .error .endInObject
    | .wrongKey => .error .wantedKey
    | .brokenKey read _ => .error read
    | _ => .error .wantedValue
  | .broken b => .error b.choose
  | _ => .error .wantedValue

/-! ### Whole texts -/

/-- Reads a whole text, behind which only blanks may follow. -/
def Reader.ofText {α : Type} (read : Reader α) (text : String) : Except Fault α := do
  let document := Document.ofText text
  let data ← read document.root
  if document.trailing then throw .trailingCharacters
  return data

end LSystem.Json
