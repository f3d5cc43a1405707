import LSystem.Description.Basic
import LSystem.Turtle.Json

/-!
# Descriptions in JSON

A description is an object of its parts, of which only the start word has to be there.
A token list is a string or a list of strings; before its form is looked at, the whole
value is read, so that a text at odds with JSON is reported as that.
-/

namespace LSystem

open Json

/-! ### Token lists -/

/-- The text of a string. -/
def Json.Tree.text? : Tree → Option String
  | .string (.ok s) => some s
  | _ => none

/-- The token list that a tree is, if it has one of the two forms. -/
def TokenList.ofTree? : Tree → Option TokenList
  | .string (.ok s) => some (.text s)
  | .list items _ => (items.mapM Tree.text?).map .tokens
  | _ => none

/-- Reads a token list that stands inside `depth` lists and objects. -/
def TokenList.read (depth : Nat) : Reader TokenList := fun t => do
  t.check depth
  match TokenList.ofTree? t with
  | some list => return list
  | none => throw (.noForm "TokenList")

/-- The value of a token list. -/
def TokenList.toJson : TokenList → Value
  | .text s => .string s
  | .tokens ts => .list (ts.map .string)

/-! ### Rules -/

/-- Rules as records, inside `depth` lists and objects. -/
def Rule.record (depth : Nat) : Record Rule where
  title := "struct RuleDefinition"
  strict := true
  blank := ⟨"", .text "", 1⟩
  fields :=
    [.mandatory "symbol" readString fun symbol r => { r with symbol },
      .mandatory "replacement" (TokenList.read (depth + 1)) fun replacement r =>
        { r with replacement },
      .optional "weight" readUInt32 fun weight r => { r with weight }]

/-- The value of a rule. -/
def Rule.toJson (r : Rule) : Value :=
  .object [("symbol", .string r.symbol), ("replacement", r.replacement.toJson),
    ("weight", .ofNat r.weight.toNat)]

/-! ### Settings of curves and bindings -/

/-- The settings of curves as a record. -/
def Curve.Settings.record : Record Curve.Settings where
  title := "struct CurveConfig"
  strict := true
  blank := {}
  fields := [.optional "width" readSingle fun width s => { s with width }]

/-- The value of the settings of curves. -/
def Curve.Settings.toJson (s : Curve.Settings) : Value := .object [("width", .ofSingle s.width)]

/-- Reads bindings. -/
def Bindings.read : Reader Bindings := fun t =>
  (readPairs Turtle.Operation.read t).map Bindings.ofList

/-- The value of bindings. -/
def Bindings.toJson (bs : Bindings) : Value :=
  .object (bs.toList.map fun b => (b.1, b.2.toJson))

/-! ### Descriptions -/

namespace Description

/-- Descriptions as records. -/
def record : Record Description where
  title := "struct GrammarDescription"
  strict := true
  blank := { start := .text "" }
  fields :=
    [.mandatory "axiom" (TokenList.read 1) fun start d => { d with start },
      .optional "rules" (readList (Rule.record 2).read) fun rules d => { d with rules },
      .optional "commands" Bindings.read fun bindings d => { d with bindings },
      .optional "generations" readUInt32 fun generations d => { d with generations },
      .optional "seed" (readUInt64 "u64") fun seed d => { d with seed },
      .optional "turtle" Turtle.Settings.record.read fun turtle d => { d with turtle },
      .optional "curve" Curve.Settings.record.read fun curve d => { d with curve }]

/-- Reads a description. -/
def read : Reader Description := record.read

/-- **The description that a text spells.** -/
def ofText (text : String) : Except Fault Description := Reader.ofText read text

/-- The value of a description. -/
def toJson (d : Description) : Value :=
  .object [("axiom", d.start.toJson), ("rules", .list (d.rules.map Rule.toJson)),
    ("commands", d.bindings.toJson), ("generations", .ofNat d.generations.toNat),
    ("seed", .ofNat d.seed.toNat), ("turtle", d.turtle.toJson), ("curve", d.curve.toJson)]

end Description

end LSystem
