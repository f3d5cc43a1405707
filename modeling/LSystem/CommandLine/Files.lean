import LSystem.Error

/-!
# Files

What the command line needs of its surroundings: to read a file as a whole, to write one as a
whole, and to print on the standard output. `FileAccess` is this interface, over any kind of
effect. Each of the three may fail. `Files` is a directory tree in memory that provides it,
with the faults that a system reports, and with a text that takes all that is printed.

A path is walked name by name. A file on the way to something else is a fault of its own,
as is a directory at the end; a path that ends in a slash wants a directory, so a file
cannot be written there. A name is looked at only when the walk has come to it, so of two
faults the one that is nearer to the root is reported. Names and paths have only so many
bytes (`maxName`, `maxPath`).
-/

namespace LSystem.CommandLine

/-- Reading and writing whole files, and printing. -/
structure FileAccess (m : Type → Type) where
  read : String → m (Except FileFault ByteArray)
  write : String → String → m (Except FileFault Unit)
  /-- Prints a text on the standard output. -/
  print : String → m (Except FileFault Unit)

/-- A path without its slashes: the names from the root on. -/
abbrev Names := List String

/-- A directory tree in memory. -/
structure Files where
  /-- The directories other than the root. -/
  directories : List Names
  files : List (Names × ByteArray)

namespace Files

/-- What stands at a place. -/
inductive Entry where
  | file (content : ByteArray)
  | directory

/-- What stands at a place, if anything does. -/
def entry? (fs : Files) (place : Names) : Option Entry :=
  match fs.files.lookup place with
  | some content => some (.file content)
  | none => if place.isEmpty || fs.directories.contains place then some .directory else none

/-- The greatest number of bytes in a name. -/
def maxName : Nat := 255

/-- The greatest number of bytes in a path. -/
def maxPath : Nat := 4095

/-- The names of a path. -/
def namesOf (path : String) : Except FileFault Names :=
  if path.contains '\x00' then .error .zeroInName
  else if maxPath < path.utf8ByteSize then .error .nameTooLong
  else .ok (path.splitOn "/")

/-- Looks for a name in a directory. There need not be anything of that name. -/
def find (directory : Names) (name : String) : Except FileFault Names :=
  if name = "" ∨ name = "." then .ok directory
  else if name = ".." then .ok directory.dropLast
  else if maxName < name.utf8ByteSize then .error .nameTooLong
  else .ok (directory ++ [name])

/-- Walks along names from a directory; the last name may lead to anything. -/
def walk (fs : Files) (place : Names) : Names → Except FileFault Names
  | [] => .ok place
  | name :: names =>
    -- To go on from a place, it has to be a directory, even for an empty name.
    match fs.entry? place with
    | some (.file _) => .error .notADirectory
    | none => .error .notFound
    | some .directory =>
      match find place name with
      | .ok next => fs.walk next names
      | .error f => .error f

/-- Reads a file. -/
def read (fs : Files) (path : String) : Except FileFault ByteArray := do
  match fs.entry? (← fs.walk [] (← namesOf path)) with
  | some (.file content) => return content
  | some .directory => throw .isADirectory
  | none => throw .notFound

/-- Puts a file in its place. -/
def put (fs : Files) (place : Names) (content : ByteArray) : Files :=
  { fs with files := (place, content) :: fs.files.filter fun f => f.1 ≠ place }

/-- Writes a file, which need not be there before; the directory in which it stands must be. -/
def write (fs : Files) (path : String) (content : String) : Except FileFault Files := do
  let names ← namesOf path
  -- The last name may have slashes behind it.
  let ending := names.reverse.takeWhile (· = "")
  let leading := (names.reverse.dropWhile (· = "")).reverse
  let directory ← fs.walk [] leading.dropLast
  let last := leading.getLastD ""
  match fs.entry? directory with
  | some (.file _) => throw .notADirectory
  | none => throw .notFound
  | some .directory =>
    if !ending.isEmpty ∨ last = "" ∨ last = "." ∨ last = ".." then throw .isADirectory
    let place ← find directory last
    match fs.entry? place with
    | some .directory => throw .isADirectory
    | _ => return fs.put place content.toUTF8

/-- A tree in memory as the files of a program, and a text for what it prints. -/
def access : FileAccess (StateM (Files × String)) where
  read path := do return (← get).1.read path
  write path content := do
    let (fs, printed) ← get
    match fs.write path content with
    | .ok fs => set (fs, printed); return .ok ()
    | .error f => return .error f
  print text := do
    modify fun (fs, printed) => (fs, printed ++ text)
    return .ok ()

end Files

end LSystem.CommandLine
