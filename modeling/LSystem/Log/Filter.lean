import LSystem.Decimal.Reading
import LSystem.Log.Event
import LSystem.Log.Pattern
import LSystem.Text.Alphanumeric
import LSystem.Text.Character

/-!
# Log filters

A filter is a list of directives between commas. A directive names a target, a level or
both, as in `target=level`; it may also ask for a span and for fields, as in
`target[span{field}]=level`. A target without a level admits all levels, and a lone
level is for all targets. Directives that ask for a span, or for the value of a field,
concern what happens within spans; there are none here, so they admit nothing. Still, the
value has to be one: a number or a pattern.

Of the directives that concern an event the most specific one decides (`before`): the one
with the longest target, then the one with the most fields. A target concerns all targets
that begin with it.

A directive is read character by character. Blanks around it are not read, but the places
of its parts are still counted from where the reading began, so that with blanks in front
the parts come out shifted (`Reading.part`).
-/

namespace LSystem.Log

/-- A directive: the events that it concerns and the rank up to which it admits them. -/
structure Directive where
  rank : Nat
  target : Option String
  fields : List String
deriving DecidableEq, Repr

/-- A directive as it is written: whether it asks for a span or for a value comes on top. -/
structure WrittenDirective where
  directive : Directive
  dynamic : Bool
deriving DecidableEq, Repr

/-! ### Levels -/

/-- The rank of a level by name or number; zero admits nothing. -/
def rankOf? (text : String) : Option Nat :=
  match Decimal.natUpTo? 5 text with
  | some n => some n
  | none =>
    match String.ofList (text.toList.map Char.toLower) with
    | "off" => some 0
    | "error" => some 1
    | "warn" => some 2
    | "info" => some 3
    | "debug" => some 4
    | "trace" => some 5
    | _ => none

/-! ### Reading directives -/

namespace Reading

/-- What of a directive is being read, and where it begins. -/
inductive Phase where
  | start
  | levelOrTarget (first : Nat)
  | span (first : Nat)
  | field (first : Nat)
  | fields
  | target
  | level (first : Nat)

/-- What has been read of a directive. -/
structure State where
  phase : Phase
  target : Option String := none
  inSpan : Bool := false
  fields : List String := []
  withValue : Bool := false

/-- What is left of a text after so many bytes. -/
def dropBytes (n : Nat) : List Char → List Char
  | [] => []
  | c :: cs => if n = 0 then c :: cs else dropBytes (n - c.utf8Size) cs

/-- The first so many bytes of a text. -/
def takeBytes (n : Nat) : List Char → List Char
  | [] => []
  | c :: cs => if n = 0 then [] else c :: takeBytes (n - c.utf8Size) cs

/-- The part of a text between two places, counted in bytes. -/
def part (text : List Char) (first last : Nat) : String :=
  String.ofList (takeBytes (last - first) (dropBytes first text))

/-- The part of a text from a place on. -/
def partFrom (text : List Char) (first : Nat) : String := String.ofList (dropBytes first text)

/-- Whether a directive can begin with a character. -/
def canBegin (c : Char) : Bool :=
  c = '-' || c = ':' || c = '_' || Text.isAlphanumeric c

/-- Whether a directive can ask for a value: for a number, or for all values that match a
pattern. -/
def isValue (text : List Char) : Bool :=
  (Decimal.single? (String.ofList text)).isSome || isPattern text

/-- Adds the field between two places, a name and perhaps a value behind `=`. The field may not
be empty; a second `=` ends the value. -/
def addField (text : List Char) (first last : Nat) (s : State) (phase : Phase) : Option State :=
  let added (name : List Char) (withValue : Bool) : Option State :=
    some { s with phase, fields := s.fields ++ [String.ofList name], withValue }
  match (part text first last).toList.span (· ≠ '=') with
  | ([], []) => none
  | (name, []) => added name s.withValue
  | (name, _ :: value) => if isValue (value.takeWhile (· ≠ '=')) then added name true else none

/-- Reads the character at a place. -/
def step (text : List Char) (s : State) (i : Nat) (c : Char) : Option State :=
  match s.phase with
  | .start =>
    if c = '[' then some { s with phase := .span (i + 1) }
    else if canBegin c then some { s with phase := .levelOrTarget i }
    else none
  | .levelOrTarget first =>
    if c = '=' then some { s with phase := .level (i + 1), target := some (part text first i) }
    else if c = '[' then some { s with phase := .span (i + 1), target := some (part text first i) }
    else some s
  | .span first =>
    if c = ']' then some { s with phase := .target, inSpan := true }
    else if c = '\x7b' then
      some { s with phase := .field (i + 1), inSpan := !(part text first i).isEmpty }
    else some s
  | .field first => if c = '\x7d' then addField text first i s .fields else some s
  | .fields => if c = ']' then some { s with phase := .target } else none
  | .target => if c = '=' then some { s with phase := .level (i + 1) } else none
  | .level _ => some s

/-- Reads characters, the first of which is at place `i`. -/
def steps (text : List Char) (s : State) (i : Nat) : List Char → Option State
  | [] => some s
  | c :: cs =>
    match step text s i c with
    | some s => steps text s (i + c.utf8Size) cs
    | none => none

/-- The directive that has been read, with the given rank and target. -/
def State.written (s : State) (rank : Nat) (target : Option String) : WrittenDirective :=
  ⟨⟨rank, target, s.fields⟩, s.inSpan || s.withValue⟩

/-- The directive of a text that has been read to its end. -/
def finish (text : List Char) (s : State) : Option WrittenDirective :=
  match s.phase with
  | .levelOrTarget first =>
    let word := partFrom text first
    match rankOf? word with
    | some rank => some (s.written rank none)
    | none => some (s.written Level.trace.rank (if word.isEmpty then none else some word))
  | .level first =>
    let word := partFrom text first
    if word.isEmpty then some (s.written Level.trace.rank s.target)
    else (rankOf? word).map fun rank => s.written rank s.target
  | .target => some (s.written Level.trace.rank s.target)
  | .start | .span _ | .field _ | .fields => none

end Reading

/-- A text without the white space around it. -/
def trim (text : List Char) : List Char :=
  ((text.dropWhile Text.isBlank).reverse.dropWhile Text.isBlank).reverse

/-- The directive that a text writes. -/
def WrittenDirective.ofText? (text : List Char) : Option WrittenDirective := do
  Reading.finish text (← Reading.steps text ⟨.start, none, false, [], false⟩ 0 (trim text))

/-! ### Filters -/

/-- The order of the fields of two directives that are equally specific. -/
def greaterFields : List String → List String → Bool
  | [], _ => false
  | _ :: _, [] => true
  | a :: as, b :: bs => if a = b then greaterFields as bs else b < a

/-- **Which of two directives is asked first:** the more specific one. -/
def Directive.before (d e : Directive) : Bool :=
  let length (d : Directive) : Nat := match d.target with
    | some t => t.utf8ByteSize + 1
    | none => 0
  if length d ≠ length e then length e < length d
  else if d.fields.length ≠ e.fields.length then e.fields.length < d.fields.length
  else match d.target, e.target with
    | some s, some t => if s = t then greaterFields d.fields e.fields else t < s
    | _, _ => greaterFields d.fields e.fields

/-- Puts a directive into a list in this order, in place of one that concerns the same
events. -/
def insertDirective (d : Directive) : List Directive → List Directive
  | [] => [d]
  | e :: es =>
    if d.target = e.target ∧ d.fields = e.fields then d :: es
    else if d.before e then d :: e :: es
    else e :: insertDirective d es

/-- A filter: its directives in the order in which they are asked. -/
structure Filter where
  directives : List Directive
deriving DecidableEq, Repr

namespace Filter

/-- The filter that admits everything up to a level. -/
def ofLevel (level : Level) : Filter := ⟨[⟨level.rank, none, []⟩]⟩

/-- The filter that a text writes. -/
def ofText? (text : String) : Option Filter := do
  let texts := (text.splitOn ",").filter fun t => !t.isEmpty
  let written ← texts.mapM fun t => WrittenDirective.ofText? t.toList
  if written.isEmpty then return .ofLevel .error
  -- Nothing happens within spans here, so what concerns them admits nothing.
  let heeded := written.filter fun w => !w.dynamic
  return ⟨heeded.foldl (fun ds w => insertDirective w.directive ds) []⟩

/-- Whether a directive concerns an event. The message of an event counts as a field. -/
def concerns (d : Directive) (e : Event) : Bool :=
  (match d.target with
    | some t => t.toList.isPrefixOf e.target.toList
    | none => true)
    && d.fields.all fun name => name = "message" || e.fields.any (·.1 = name)

/-- **Whether an event is logged.** -/
def admits (f : Filter) (e : Event) : Bool :=
  match f.directives.find? (concerns · e) with
  | some d => e.level.rank ≤ d.rank
  | none => false

/-- The filter of a setting: without a setting, or with one that cannot be read, everything
up to `info` is logged. -/
def ofSetting (setting : Option String) : Filter :=
  (setting.bind ofText?).getD (.ofLevel .info)

end Filter

end LSystem.Log
