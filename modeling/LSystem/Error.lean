import LSystem.Decimal.Layout
import LSystem.Json.Fault
import LSystem.Settings

/-!
# Errors

Everything that can go wrong between a description and its curves, by cause. An error ends
the evaluation that raised it; nothing is produced in part. `Error.message` gives the words.
-/

namespace LSystem

open Decimal

/-- What makes a description unusable. -/
inductive Defect where
  /-- The text is not a description. -/
  | unreadable (fault : Json.Fault)
  | settingNotFinite (setting : Turtle.Setting) (value : Float32)
  | badWidth (width : Float32)
  | emptyStart
  /-- A token is empty or has white space in it. -/
  | notAToken (text : String)
  | noReplacement (symbol : String)
  | zeroWeight (symbol : String)
  /-- The weights for a symbol add up to more than 32 bits can hold. -/
  | weightOverflow (symbol : String)
  | tooManySymbols
deriving DecidableEq

/-- What keeps a file from being read or written. -/
inductive FileFault where
  | notFound
  | notADirectory
  | isADirectory
  /-- A name on the path has too many bytes, or the path has. -/
  | nameTooLong
  /-- There is a zero byte in the path. -/
  | zeroInName
  /-- The content of the file is not UTF-8. -/
  | notText
  /-- Anything else, in the words of the system. -/
  | other (words : String)
deriving DecidableEq, Repr

/-- **What can go wrong.** -/
inductive Error where
  | malformed (defect : Defect)
  /-- A symbol has neither a rule nor a meaning. -/
  | unbound (symbol : String) (generation : Nat)
  /-- A branch ends that has not begun, or `depth` branches are left open. -/
  | unbalanced (position depth : Nat)
  /-- The vertex counts of a buffer disagree with its vertices. -/
  | topology (counted : UInt64) (points : Nat)
  | file (path : String) (fault : FileFault)
deriving DecidableEq

/-- The greatest sum of weights. -/
def maxWeight : Nat := 4294967295

/-- The greatest number of symbols. -/
def maxSymbols : Nat := 65536

/-- The words for a defect. -/
def Defect.message : Defect → String
  | .unreadable fault => fault.message
  | .settingNotFinite setting value =>
    "turtle " ++ setting.name ++ " must be finite, got " ++ plainText value
  | .badWidth width => "curve width must be finite and non-negative, got " ++ plainText width
  | .emptyStart => "axiom is empty"
  | .notAToken text => "'" ++ text ++ "' is not a single token"
  | .noReplacement symbol => "rule for '" ++ symbol ++ "' has no replacement"
  | .zeroWeight symbol => "rule for '" ++ symbol ++ "' has zero weight"
  | .weightOverflow symbol =>
    "rule weights for '" ++ symbol ++ "' exceed " ++ natText maxWeight
  | .tooManySymbols => "too many distinct symbols (limit " ++ natText maxSymbols ++ ")"

/-- The words for a fault of a file, and the number by which the system knows it. -/
def FileFault.message : FileFault → String
  | .notFound => "No such file or directory (os error 2)"
  | .notADirectory => "Not a directory (os error 20)"
  | .isADirectory => "Is a directory (os error 21)"
  | .nameTooLong => "File name too long (os error 36)"
  | .zeroInName => "file name contained an unexpected NUL byte"
  | .notText => "stream did not contain valid UTF-8"
  | .other words => words

/-- The words for an error. -/
def Error.message : Error → String
  | .malformed defect => "malformed grammar: " ++ defect.message
  | .unbound symbol generation =>
    "unbound symbol '" ++ symbol ++ "' in generation " ++ natText generation
  | .unbalanced position depth =>
    "unbalanced branch at command " ++ natText position ++ " (open branches: "
      ++ natText depth ++ ")"
  | .topology counted points =>
    "incorrect curve topology: " ++ natText counted.toNat ++ " total verts, "
      ++ natText points ++ " points"
  | .file path fault => "failed to read description " ++ path ++ ": " ++ fault.message

end LSystem
