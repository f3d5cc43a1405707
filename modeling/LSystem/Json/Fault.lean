import LSystem.Decimal.Numeral
import LSystem.Text.Quoted

/-!
# What can be wrong with a JSON text

A `Fault` is the first thing that keeps a text from being read as data of the kind asked
for. It is either a matter of the text (the faults down to `tooDeep`) or of the data that
the text spells: a value of the wrong kind, a field that is missing, repeated or unknown.
Faults of both sorts are reported in reading order, so a reader stops at whichever comes
first in the text.
-/

namespace LSystem.Json

open LSystem.Decimal LSystem.Text

/-- The kind of a value that was found where another kind was wanted. -/
inductive Found where
  | null
  | bool (b : Bool)
  | integer (i : Int)
  | decimal (written : Numeral)
  | string (s : String)
  | list
  | object
  /-- The bare name of an alternative that carries data. -/
  | bareName
deriving DecidableEq

/-- The words for what was found. -/
def Found.text : Found → String
  | .null => "null"
  | .bool b => "boolean `" ++ (if b then "true" else "false") ++ "`"
  | .integer i => "integer `" ++ (if i < 0 then "-" else "") ++ natText i.natAbs ++ "`"
  | .decimal n => "floating point `" ++ n.text ++ "`"
  | .string s => "string " ++ quoted s
  | .list => "sequence"
  | .object => "map"
  | .bareName => "unit variant"

/-- What keeps a text from being read. -/
inductive Fault where
  | endInValue
  | endInList
  | endInObject
  | endInString
  | wantedValue
  | wantedWord
  | wantedColon
  | wantedListEnd
  | wantedObjectEnd
  | wantedKey
  | trailingComma
  | trailingCharacters
  | badNumber
  | numberTooLarge
  | badEscape
  | brokenPair
  | loneSurrogate
  | controlCharacter
  | tooDeep
  | wrongKind (found : Found) (wanted : String)
  | wrongValue (found : Found) (wanted : String)
  | wrongLength (length : Nat) (wanted : String)
  | unknownField (name : String) (known : List String)
  | unknownName (name : String) (known : List String)
  | missingField (name : String)
  | repeatedField (name : String)
  | noForm (type : String)
deriving DecidableEq

/-- Names to choose from, each between backticks. -/
def oneOf : List String → String
  | [] => "nothing"
  | [a] => "`" ++ a ++ "`"
  | [a, b] => "`" ++ a ++ "` or `" ++ b ++ "`"
  | names => "one of " ++ ", ".intercalate (names.map fun a => "`" ++ a ++ "`")

/-- The message of a fault. -/
def Fault.message : Fault → String
  | .endInValue => "EOF while parsing a value"
  | .endInList => "EOF while parsing a list"
  | .endInObject => "EOF while parsing an object"
  | .endInString => "EOF while parsing a string"
  | .wantedValue => "expected value"
  | .wantedWord => "expected ident"
  | .wantedColon => "expected `:`"
  | .wantedListEnd => "expected `,` or `]`"
  | .wantedObjectEnd => "expected `,` or `\x7d`"
  | .wantedKey => "key must be a string"
  | .trailingComma => "trailing comma"
  | .trailingCharacters => "trailing characters"
  | .badNumber => "invalid number"
  | .numberTooLarge => "number out of range"
  | .badEscape => "invalid escape"
  | .brokenPair => "unexpected end of hex escape"
  | .loneSurrogate => "lone leading surrogate in hex escape"
  | .controlCharacter => "control character (\\u0000-\\u001F) found while parsing a string"
  | .tooDeep => "recursion limit exceeded"
  | .wrongKind found wanted => "invalid type: " ++ found.text ++ ", expected " ++ wanted
  | .wrongValue found wanted => "invalid value: " ++ found.text ++ ", expected " ++ wanted
  | .wrongLength n wanted => "invalid length " ++ natText n ++ ", expected " ++ wanted
  | .unknownField name known => "unknown field `" ++ name ++ "`, expected " ++ oneOf known
  | .unknownName name known => "unknown variant `" ++ name ++ "`, expected " ++ oneOf known
  | .missingField name => "missing field `" ++ name ++ "`"
  | .repeatedField name => "duplicate field `" ++ name ++ "`"
  | .noForm type => "data did not match any variant of untagged enum " ++ type

end LSystem.Json
