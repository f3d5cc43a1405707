import LSystem.CommandLine.Files
import LSystem.Proofs.Outcome

/-!
# File systems and standard outputs

A `FileSystem` is anything with files that can be read and written as a whole. Its files stand at
places, and a path leads to a place or to none. What is assumed of it is little: a path that can be
read leads to the place of a file with that content, and a write that succeeds leaves the path
leading to a file that holds exactly the text, and all other files as they were. A write that fails
gives no new state, so it has changed nothing.

A `StandardOutput` is anything that takes texts one behind the other. A text that it has taken has
arrived in full; of a text that it has refused some part may have arrived, at any byte of it. That
a refused text has left nothing behind, as with files, is a further law (`IsWhole`), which not every
output obeys.

The directory tree in memory is a file system (`Files.fileSystem`). A write changes what stands at
one place, which was no directory before, so every walk that was possible still is (`walk_put`),
among them the one to the file that was written.
-/

namespace LSystem.CommandLine

/-- **Files that are read and written as a whole.** -/
structure FileSystem where
  State : Type
  Place : Type
  read : State → String → Except FileFault ByteArray
  /-- Writes a text, or changes nothing. -/
  write : State → String → String → Except FileFault State
  /-- The place to which a path leads. -/
  place? : State → String → Option Place
  /-- The content of the file at a place, if there is one. -/
  content? : State → Place → Option ByteArray
  read_eq_ok_iff {s : State} {path : String} {content : ByteArray} : read s path = .ok content ↔
    ∃ place, place? s path = some place ∧ content? s place = some content
  write_eq_ok {s s' : State} {path text : String} (h : write s path text = .ok s') :
    ∃ place, place? s' path = some place ∧ content? s' place = some text.toUTF8 ∧
      ∀ other, other ≠ place → content? s' other = content? s other

/-- **A place to print on.** -/
structure StandardOutput where
  State : Type
  /-- All that has arrived so far. -/
  shown : State → ByteArray
  /-- Prints a text, or a part of it. -/
  print : State → String → Except FileFault Unit × State
  shown_of_ok {t t' : State} {text : String} (h : print t text = (.ok (), t')) :
    shown t' = shown t ++ text.toUTF8
  shown_of_error {t t' : State} {text : String} {fault : FileFault}
    (h : print t text = (.error fault, t')) :
    ∃ part rest, text.toUTF8 = part ++ rest ∧ shown t' = shown t ++ part

/-- Nothing arrives of a text that has been refused. -/
def StandardOutput.IsWhole (O : StandardOutput) : Prop :=
  ∀ t t' text fault, O.print t text = (.error fault, t') → O.shown t' = O.shown t

/-- A file system and a standard output as the surroundings of a program. -/
def FileSystem.access (F : FileSystem) (O : StandardOutput) :
    FileAccess (StateM (F.State × O.State)) where
  read path := do return F.read (← get).1 path
  write path text := do
    let (s, t) ← get
    match F.write s path text with
    | .ok s => set (s, t); return .ok ()
    | .error f => return .error f
  print text := do
    let (s, t) ← get
    let (result, t) := O.print t text
    set (s, t)
    return result

section Access

variable (F : FileSystem) (O : StandardOutput) (s : F.State) (t : O.State)

theorem FileSystem.access_read (path : String) :
    (F.access O).read path (s, t) = (F.read s path, s, t) := rfl

theorem FileSystem.access_write (path text : String) :
    (F.access O).write path text (s, t) =
      match F.write s path text with
      | .ok s' => (.ok (), s', t)
      | .error f => (.error f, s, t) := by
  change (match F.write s path text with
    | .ok s' => (do set (s', t); return .ok () : StateM (F.State × O.State) (Except FileFault Unit))
    | .error f => return .error f) (s, t) = _
  cases F.write s path text <;> rfl

theorem FileSystem.access_print (text : String) :
    (F.access O).print text (s, t) = ((O.print t text).1, s, (O.print t text).2) := rfl

end Access

namespace Files

/-! ### Walks -/

section Walks

variable {fs : Files} {place next : Names} {name : String} {names : Names}

theorem walk_cons (h : fs.entry? place = some .directory) :
    fs.walk place (name :: names) = find place name >>= fun next => fs.walk next names := by
  rw [walk, h]
  dsimp only
  cases find place name <;> rfl

/-- A walk goes through directories only. -/
theorem walk_cons_eq_ok_iff : fs.walk place (name :: names) = .ok next ↔
    fs.entry? place = some .directory ∧
      ∃ middle, find place name = .ok middle ∧ fs.walk middle names = .ok next := by
  cases hentry : fs.entry? place with
  | none => simp [walk, hentry]
  | some entry =>
    cases entry with
    | file content => simp [walk, hentry]
    | directory => rw [walk_cons hentry, bind_eq_ok_iff]; simp

theorem walk_concat {directory : Names} (hwalk : fs.walk place names = .ok directory)
    (hentry : fs.entry? directory = some .directory) (hfind : find directory name = .ok next) :
    fs.walk place (names ++ [name]) = .ok next := by
  induction names generalizing place with
  | nil =>
    cases hwalk
    exact walk_cons_eq_ok_iff.2 ⟨hentry, next, hfind, rfl⟩
  | cons first names ih =>
    obtain ⟨hplace, middle, hmiddle, hrest⟩ := walk_cons_eq_ok_iff.1 hwalk
    exact walk_cons_eq_ok_iff.2 ⟨hplace, middle, hmiddle, ih hrest⟩

theorem lookup_put_self (fs : Files) (place : Names) (content : ByteArray) :
    (fs.put place content).files.lookup place = some content := by
  simp [put]

theorem lookup_put_of_ne (fs : Files) (content : ByteArray) {other : Names} (h : other ≠ place) :
    (fs.put place content).files.lookup other = fs.files.lookup other := by
  have hfilter (files : List (Names × ByteArray)) :
      (files.filter fun f => decide (f.1 ≠ place)).lookup other = files.lookup other := by
    induction files with
    | nil => rfl
    | cons f files ih =>
      rw [List.filter_cons, List.lookup_cons]
      by_cases hf : f.1 = place
      · -- What is taken out is not what is looked for.
        have hne : (other == f.1) = false := beq_false_of_ne fun heq => h (heq.trans hf)
        rw [if_neg (by simpa using hf), hne, ih]
      · rw [if_pos (by simpa using hf), List.lookup_cons, ih]
  -- The new file stands in front of the old ones and is passed over.
  have hne : (other == place) = false := beq_false_of_ne h
  change ((place, content) :: fs.files.filter _).lookup other = _
  rw [List.lookup_cons, hne]
  exact hfilter fs.files

/-- What stands elsewhere stays. -/
theorem entry?_put_of_ne (fs : Files) (content : ByteArray) {other : Names} (h : other ≠ place) :
    entry? (fs.put place content) other = fs.entry? other := by
  unfold entry?
  rw [lookup_put_of_ne fs content h]
  rfl

/-- **A file in the place of no directory is in nobody's way.** -/
theorem walk_put {start : Names} (content : ByteArray) (h : fs.entry? place ≠ some .directory)
    (hwalk : fs.walk start names = .ok next) :
    (fs.put place content).walk start names = .ok next := by
  induction names generalizing start with
  | nil => exact hwalk
  | cons name names ih =>
    obtain ⟨hstart, middle, hmiddle, hrest⟩ := walk_cons_eq_ok_iff.1 hwalk
    have hne : start ≠ place := fun heq => h (heq ▸ hstart)
    refine walk_cons_eq_ok_iff.2 ⟨?_, middle, hmiddle, ih hrest⟩
    rw [entry?_put_of_ne fs content hne, hstart]

end Walks

/-! ### Reading and writing -/

/-- The place to which a path leads. -/
def place? (fs : Files) (path : String) : Option Names :=
  (namesOf path >>= fs.walk []).toOption

variable {fs fs' : Files} {path text : String}

theorem place?_eq_some_iff {place : Names} : fs.place? path = some place ↔
    ∃ names, namesOf path = .ok names ∧ fs.walk [] names = .ok place := by
  rw [← bind_eq_ok_iff, place?]
  cases namesOf path >>= fs.walk [] <;> simp [Except.toOption]

private theorem entry?_eq_file_iff {place : Names} {content : ByteArray} :
    fs.entry? place = some (.file content) ↔ fs.files.lookup place = some content := by
  unfold entry?
  cases fs.files.lookup place with
  | some c => simp
  | none =>
    simp only [reduceCtorEq, iff_false]
    split <;> simp

theorem read_path_eq_ok_iff {content : ByteArray} : fs.read path = .ok content ↔
    ∃ place, fs.place? path = some place ∧ fs.files.lookup place = some content := by
  unfold read
  simp only [bind_eq_ok_iff, place?_eq_some_iff]
  -- A file is read at the end of the walk; a directory and nothing at all are faults.
  constructor
  · rintro ⟨names, hnames, place, hwalk, hcontent⟩
    refine ⟨place, ⟨names, hnames, hwalk⟩, ?_⟩
    split at hcontent
    · next hentry =>
      cases hcontent
      exact entry?_eq_file_iff.1 hentry
    · cases hcontent
    · cases hcontent
  · rintro ⟨place, ⟨names, hnames, hwalk⟩, hlookup⟩
    refine ⟨names, hnames, place, hwalk, ?_⟩
    rw [entry?_eq_file_iff.2 hlookup]
    rfl

/-- Names behind which no slash follows are a way to a directory and a last name. -/
private theorem dropLast_append_getLastD {names leading : Names}
    (hleading : leading = (names.reverse.dropWhile (· = "")).reverse)
    (hending : (names.reverse.takeWhile (· = "")).isEmpty) (hlast : leading.getLastD "" ≠ "") :
    leading.dropLast ++ [leading.getLastD ""] = names := by
  have hsplit : names.reverse.takeWhile (· = "") ++ names.reverse.dropWhile (· = "") =
    names.reverse := List.takeWhile_append_dropWhile
  rw [List.isEmpty_iff.1 hending, List.nil_append] at hsplit
  rw [hsplit, List.reverse_reverse] at hleading
  subst hleading
  have hne : leading ≠ [] := fun h => hlast (h ▸ rfl)
  rw [List.getLastD_eq_getLast?, List.getLast?_eq_some_getLast hne]
  exact List.dropLast_append_getLast hne

/-- **What a write that succeeds has done.** -/
theorem exists_of_write_eq_ok (h : fs.write path text = .ok fs') :
    ∃ way last directory place, namesOf path = .ok (way ++ [last]) ∧
      fs.walk [] way = .ok directory ∧ fs.entry? directory = some .directory ∧
      find directory last = .ok place ∧ fs.entry? place ≠ some .directory ∧
      fs' = fs.put place text.toUTF8 := by
  unfold write at h
  obtain ⟨names, hnames, h⟩ := bind_eq_ok_iff.1 h
  obtain ⟨directory, hdirectory, h⟩ := bind_eq_ok_iff.1 h
  dsimp only at h
  split at h
  · cases h
  · cases h
  · next hentry =>
    -- No slash behind the last name and a name that is one, so the names end in it.
    obtain ⟨hname, h⟩ := ite_throw_eq_ok_iff.1 h
    obtain ⟨place, hplace, h⟩ := bind_eq_ok_iff.1 h
    simp only [not_or, Bool.not_eq_true', Bool.not_eq_false] at hname
    obtain ⟨hending, hlast, -⟩ := hname
    rw [← dropLast_append_getLastD rfl hending hlast] at hnames
    refine ⟨_, _, directory, place, hnames, hdirectory, hentry, hplace, ?_⟩
    -- A directory of this name would have been refused.
    split at h
    · cases h
    · next hnot =>
      cases h
      exact ⟨hnot, rfl⟩

theorem write_path_eq_ok (h : fs.write path text = .ok fs') :
    ∃ place, fs'.place? path = some place ∧ fs'.files.lookup place = some text.toUTF8 ∧
      ∀ other, other ≠ place → fs'.files.lookup other = fs.files.lookup other := by
  obtain ⟨way, last, directory, place, hnames, hway, hdirectory, hplace, hfree, rfl⟩ :=
    exists_of_write_eq_ok h
  have hwalk : fs.walk [] (way ++ [last]) = .ok place := walk_concat hway hdirectory hplace
  refine ⟨place, place?_eq_some_iff.2 ⟨_, hnames, walk_put text.toUTF8 hfree hwalk⟩, ?_, ?_⟩
  · exact lookup_put_self fs place text.toUTF8
  · exact fun other hother => lookup_put_of_ne fs text.toUTF8 hother

/-- **The directory tree is a file system.** -/
def fileSystem : FileSystem where
  State := Files
  Place := Names
  read := read
  write := write
  place? := place?
  content? fs place := fs.files.lookup place
  read_eq_ok_iff := read_path_eq_ok_iff
  write_eq_ok := write_path_eq_ok

/-- A text in memory takes everything. -/
def standardOutput : StandardOutput where
  State := String
  shown := String.toUTF8
  print printed text := (.ok (), printed ++ text)
  shown_of_ok h := by
    cases h
    exact String.toByteArray_append
  shown_of_error h := by cases h

/-- Programs on the tree and the text are programs on these surroundings. -/
theorem access_fileSystem : fileSystem.access standardOutput = access := by
  have hwrite : (fileSystem.access standardOutput).write = access.write := by
    funext path text ⟨fs, printed⟩
    have hsame : fileSystem.write fs path text = fs.write path text := rfl
    rw [FileSystem.access_write, hsame]
    unfold access
    dsimp only [bind, StateT.bind, get, getThe, MonadStateOf.get, StateT.get, pure]
    cases fs.write path text <;> rfl
  exact congrArg (FileAccess.mk access.read · access.print) hwrite

end Files

end LSystem.CommandLine
