import LSystem.CommandLine.Run

/-!
# The program

The command line on the files of the system. All decisions are made in `CommandLine.run`;
this module lends it files and the standard output, the arguments and the log setting, and
shows the lines of the error output.
-/

namespace LSystem.CommandLine

/-- Whether a fault has a number of the system, which may be reported with a minus sign. -/
def isNumber (n code : UInt32) : Bool := code = n || code = 0 - n

/-- A fault of the system in our words. -/
def faultOf : IO.Error → FileFault
  | .noFileOrDirectory .. => .notFound
  | .inappropriateType _ code words =>
    if isNumber 20 code then .notADirectory
    else if isNumber 21 code then .isADirectory
    else .other words
  | .invalidArgument _ code words =>
    if isNumber 36 code then .nameTooLong
    else if isNumber 22 code then .zeroInName
    else .other words
  | .permissionDenied .. => .other "Permission denied (os error 13)"
  | .resourceExhausted _ code words =>
    if isNumber 28 code then .other "No space left on device (os error 28)" else .other words
  | .resourceVanished .. => .other "Broken pipe (os error 32)"
  | e => .other (toString e)

/-- The files of the system and its standard output. -/
def systemFiles : FileAccess IO where
  read path := do
    try return .ok (← IO.FS.readBinFile path)
    catch e => return .error (faultOf e)
  write path content := do
    try
      IO.FS.writeFile path content
      return .ok ()
    catch e => return .error (faultOf e)
  print text := do
    try
      let output ← IO.getStdout
      output.putStr text
      output.flush
      return .ok ()
    catch e => return .error (faultOf e)

end LSystem.CommandLine

open LSystem.CommandLine in
/-- **The program.** -/
def main (arguments : List String) : IO UInt32 := do
  let outcome ← run systemFiles (← IO.getEnv "RUST_LOG") arguments
  for line in outcome.errors do
    IO.eprintln line
  return outcome.exitCode
