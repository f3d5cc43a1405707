import LSystem.CommandLine.Run
import LSystem.Proofs.CommandLine.FileSystem
import LSystem.Proofs.Json.RoundTrip
import LSystem.Proofs.Ribbon.Evaluation

/-!
# What a run delivers

A run delivers all of its result or nothing (`run_delivers`), as far as its surroundings let it.
The result is made from the files as they are at the start, by a computation that touches no file
and prints nothing (`FileSystem.payload?`); only when it is there does the run turn to the place
where it has to go. So there are few ways for a run to end (`FileSystem.Ends`): without a result,
which leaves everything as it was, with a result that the place has not taken, and with a result
that has arrived.

A file that cannot be written is answered by the file system, which leaves everything as it was. A
standard output that refuses the result may do so in the middle of it. This is the only way for a
part of a result to be seen, and the run then ends with a failure; it does not exist for an output
that takes a text as a whole or not at all.

What the result should be is said without the functions that the run uses for it: the ribbon that
the text of the file describes, with the numbers of the arguments in place of its own
(`Arguments.override`), evaluated or expanded (`FileSystem.Yields`).
-/

namespace LSystem.CommandLine

open Log

variable {F : FileSystem} {O : StandardOutput} {s s' : F.State} {t t' : O.State}
  {a : Arguments} {path payload : String}

/-! ### What a run has to deliver -/

/-- A ribbon with the numbers that the arguments give in place of its own. -/
def Arguments.override (a : Arguments) (r : Ribbon) : Ribbon :=
  { r with
    generations := a.generations.getD r.generations
    seed := a.seed.getD r.seed
    curve := { r.curve with width := a.width.getD r.curve.width } }

/-- A ribbon evaluates to a payload: the text of its word, or its curves as JSON. -/
def Arguments.Evaluates (a : Arguments) (r : Ribbon) (payload : String) : Prop :=
  if a.printCommands then r.commandText = .ok payload
  else ∃ b, r.evaluate = .ok b ∧ payload = b.toJson.text

/-- **The payload of a run:** what comes of the ribbon in the file that the arguments name. -/
def FileSystem.Yields (F : FileSystem) (s : F.State) (a : Arguments) (payload : String) : Prop :=
  ∃ path text r, a.description = some path ∧ F.read s path = .ok text.toUTF8 ∧
    Ribbon.ofText text = .ok r ∧ a.Evaluates (a.override r) payload

/-- **A payload has been delivered,** to the standard output or to a file, and nothing else has
changed. -/
def FileSystem.IsDelivered (F : FileSystem) (O : StandardOutput) (s s' : F.State) (t t' : O.State)
    (payload : String) : (target : Option String) → Prop
  | none => O.shown t' = O.shown t ++ (payload ++ "\n").toUTF8 ∧ s' = s
  | some path => O.shown t' = O.shown t ∧
    ∃ place, F.place? s' path = some place ∧ F.content? s' place = some payload.toUTF8 ∧
      ∀ other, other ≠ place → F.content? s' other = F.content? s other

/-- The place to which a payload has to go takes it. -/
def FileSystem.Takes (F : FileSystem) (O : StandardOutput) (s : F.State) (t : O.State)
    (payload : String) : (target : Option String) → Prop
  | none => ∃ t', O.print t (payload ++ "\n") = (.ok (), t')
  | some path => ∃ s', F.write s path payload = .ok s'

/-- **A text has been refused** by the standard output, which shows some first part of it. -/
def StandardOutput.HasRefused (O : StandardOutput) (t t' : O.State) (text : String) : Prop :=
  (∃ fault, O.print t text = (.error fault, t')) ∧
    ∃ part rest, text.toUTF8 = part ++ rest ∧ O.shown t' = O.shown t ++ part

/-! ### The computation of the payload -/

theorem Arguments.adjust_eq_override (a : Arguments) (r : Ribbon) : a.adjust r = a.override r := by
  obtain ⟨_, generations, seed, width, _, _⟩ := a
  cases generations <;> cases seed <;> cases width <;> rfl

theorem textOf_eq_ok_iff {content : ByteArray} {text : String} :
    textOf content = .ok text ↔ content = text.toUTF8 := by
  unfold textOf String.fromUTF8?
  -- Bytes that are valid are the bytes of one text only, and no text has others.
  by_cases hvalid : content.IsValidUTF8
  · rw [dif_pos hvalid]
    constructor
    · intro h
      cases h
      rfl
    · rintro rfl
      rfl
  · rw [dif_neg hvalid]
    constructor
    · intro h
      cases h
    · rintro rfl
      exact absurd text.isValidUTF8 hvalid

theorem load_eq_ok_iff {content : Except FileFault ByteArray} {r : Ribbon} :
    (load path content).2 = .ok r ↔
      ∃ text : String, content = .ok text.toUTF8 ∧ Ribbon.ofText text = .ok r := by
  -- First what is in the file, then what the text describes; the events do not matter here.
  have htext {text : String} : content.bind textOf = .ok text ↔ content = .ok text.toUTF8 := by
    change content >>= textOf = _ ↔ _
    rw [bind_eq_ok_iff]
    simp only [textOf_eq_ok_iff, exists_eq_right]
  have hload : (load path content).2 = .ok r ↔
      ∃ text, content.bind textOf = .ok text ∧ Ribbon.ofText text = .ok r := by
    unfold load Ribbon.ofText
    cases content.bind textOf with
    | error fault => simp
    | ok text =>
      simp only [Except.ok.injEq, exists_eq_left']
      cases Description.ofText text with
      | error fault => simp
      | ok d =>
        dsimp only
        cases Ribbon.ofDescription d <;> simp
  rw [hload]
  simp only [htext]

theorem result_eq_ok_iff {r : Ribbon} :
    (a.result r).2 = .ok payload ↔ a.Evaluates r payload := by
  unfold Arguments.result Arguments.Evaluates
  split
  · cases r.commandText <;> simp [Except.mapError]
  · cases r.evaluate <;> simp [eq_comm]

/-- The payload, or why there is none. -/
def FileSystem.payload? (F : FileSystem) (s : F.State) (path : String) (a : Arguments) :
    Except Failure String :=
  match (load path (F.read s path)).2 with
  | .error e => .error (.during ("loading " ++ path) e)
  | .ok r => (a.result (a.adjust r)).2

theorem payload?_eq_ok_iff (hpath : a.description = some path) :
    F.payload? s path a = .ok payload ↔ F.Yields s a payload := by
  have hpayload : F.payload? s path a = .ok payload ↔
      ∃ r, (load path (F.read s path)).2 = .ok r ∧ (a.result (a.adjust r)).2 = .ok payload := by
    unfold FileSystem.payload?
    cases (load path (F.read s path)).2 <;> simp
  rw [hpayload]
  simp only [load_eq_ok_iff, result_eq_ok_iff, Arguments.adjust_eq_override]
  -- What is left to say is that the arguments name one description only.
  constructor
  · rintro ⟨r, ⟨text, hread, hr⟩, hresult⟩
    exact ⟨path, text, r, hpath, hread, hr, hresult⟩
  · rintro ⟨path', text, r, hpath', hread, hr, hresult⟩
    cases hpath.symm.trans hpath'
    exact ⟨r, ⟨text, hread, hr⟩, hresult⟩

/-- There is only one payload. -/
theorem FileSystem.Yields.eq {payload' : String} (h : F.Yields s a payload)
    (h' : F.Yields s a payload') : payload = payload' := by
  have ⟨_, _, _, hpath, _⟩ := h
  exact Except.ok.inj
    (((payload?_eq_ok_iff hpath).2 h).symm.trans ((payload?_eq_ok_iff hpath).2 h'))

/-! ### The course of a run -/

/-- **A run computes its payload first,** and then delivers it. -/
theorem exists_evaluate_eq (F : FileSystem) (O : StandardOutput) (filter : Filter) (path : String)
    (a : Arguments) (s : F.State) (t : O.State) :
    ∃ events, evaluate (F.access O) filter path a (s, t) =
      match F.payload? s path a with
      | .error f => (failed filter events f, s, t)
      | .ok payload =>
        match a.output with
        | none =>
          match O.print t (payload ++ "\n") with
          | (.ok _, t') => (succeeded filter events, s, t')
          | (.error fault, t') => (failed filter events ⟨fault.message, []⟩, s, t')
        | some target =>
          match F.write s target payload with
          | .ok s' => (succeeded filter events, s', t)
          | .error fault =>
            (failed filter events ⟨"writing " ++ target, [fault.message]⟩, s, t) := by
  -- The events are those of loading, and of evaluating if it comes to that.
  rcases hload : load path (F.read s path) with ⟨events, ribbon⟩
  unfold evaluate FileSystem.payload?
  simp only [bind, StateT.bind, FileSystem.access_read, hload]
  cases ribbon with
  | error e => exact ⟨events, rfl⟩
  | ok r =>
    refine ⟨events ++ (a.result (a.adjust r)).1, ?_⟩
    dsimp only
    cases (a.result (a.adjust r)).2 with
    | error f => rfl
    | ok payload =>
      -- The payload goes to one place only, and the answer of this place decides.
      cases a.output with
      | none =>
        simp only [StateT.bind, bind, FileSystem.access_print]
        rcases O.print t (payload ++ "\n") with ⟨result, t'⟩
        cases result <;> rfl
      | some target =>
        simp only [StateT.bind, bind, FileSystem.access_write]
        cases F.write s target payload <;> rfl

/-- The program on a file system and a standard output. -/
def FileSystem.run (F : FileSystem) (O : StandardOutput) (setting : Option String)
    (arguments : List String) (s : F.State) (t : O.State) : Outcome × F.State × O.State :=
  CommandLine.run (F.access O) setting arguments (s, t)

/-- **The ways for a run to end** that has understood its arguments. -/
inductive FileSystem.Ends (F : FileSystem) (O : StandardOutput) (s : F.State) (t : O.State)
    (a : Arguments) : Outcome → F.State → O.State → Prop where
  /-- There is nothing to deliver. -/
  | fruitless {outcome : Outcome} (hexit : outcome.exitCode ≠ 0)
      (hnone : ∀ payload, ¬ F.Yields s a payload) : Ends F O s t a outcome s t
  /-- The file cannot be written. -/
  | unwritten {outcome : Outcome} {payload target : String} {fault : FileFault}
      (hexit : outcome.exitCode ≠ 0) (hyields : F.Yields s a payload)
      (htarget : a.output = some target) (hwrite : F.write s target payload = .error fault) :
      Ends F O s t a outcome s t
  /-- The standard output refuses the payload. -/
  | refused {outcome : Outcome} {payload : String} {fault : FileFault} {t' : O.State}
      (hexit : outcome.exitCode ≠ 0) (hyields : F.Yields s a payload) (htarget : a.output = none)
      (hprint : O.print t (payload ++ "\n") = (.error fault, t')) : Ends F O s t a outcome s t'
  | written {outcome : Outcome} {payload target : String} {s' : F.State}
      (hexit : outcome.exitCode = 0) (hyields : F.Yields s a payload)
      (htarget : a.output = some target) (hwrite : F.write s target payload = .ok s') :
      Ends F O s t a outcome s' t
  | printed {outcome : Outcome} {payload : String} {t' : O.State}
      (hexit : outcome.exitCode = 0) (hyields : F.Yields s a payload) (htarget : a.output = none)
      (hprint : O.print t (payload ++ "\n") = (.ok (), t')) : Ends F O s t a outcome s t'

namespace FileSystem.Ends

variable {outcome : Outcome}

/-- A success has delivered the payload. -/
theorem isDelivered (h : F.Ends O s t a outcome s' t') (hexit : outcome.exitCode = 0) :
    ∃ payload, F.Yields s a payload ∧ F.IsDelivered O s s' t t' payload a.output := by
  cases h with
  | fruitless hnot | unwritten hnot | refused hnot => exact absurd hexit hnot
  | written _ hyields htarget hwrite =>
    refine ⟨_, hyields, ?_⟩
    rw [htarget]
    exact ⟨rfl, F.write_eq_ok hwrite⟩
  | printed _ hyields htarget hprint =>
    refine ⟨_, hyields, ?_⟩
    rw [htarget]
    exact ⟨O.shown_of_ok hprint, rfl⟩

/-- A failure has changed no file, and has shown nothing unless it is the output that has failed. -/
theorem unchanged (h : F.Ends O s t a outcome s' t') (hexit : outcome.exitCode ≠ 0) :
    s' = s ∧ (O.IsWhole → O.shown t' = O.shown t) ∧
      (O.shown t' = O.shown t ∨ ∃ payload, a.output = none ∧ F.Yields s a payload ∧
        O.HasRefused t t' (payload ++ "\n")) := by
  cases h with
  | fruitless | unwritten => exact ⟨rfl, fun _ => rfl, .inl rfl⟩
  | refused _ hyields htarget hprint =>
    exact ⟨rfl, fun hwhole => hwhole _ _ _ _ hprint,
      .inr ⟨_, htarget, hyields, ⟨_, hprint⟩, O.shown_of_error hprint⟩⟩
  | written hzero | printed hzero => exact absurd hzero hexit

/-- A payload and a place that takes it make a success. -/
theorem exitCode_eq_zero (h : F.Ends O s t a outcome s' t') (hyields : F.Yields s a payload)
    (htakes : F.Takes O s t payload a.output) : outcome.exitCode = 0 := by
  -- There is only one payload, and its place cannot both take it and refuse it.
  cases h with
  | fruitless _ hnone => exact absurd hyields (hnone payload)
  | unwritten _ hyields' htarget hwrite =>
    cases hyields.eq hyields'
    rw [htarget] at htakes
    obtain ⟨written, hwritten⟩ := htakes
    cases hwrite.symm.trans hwritten
  | refused _ hyields' htarget hprint =>
    cases hyields.eq hyields'
    rw [htarget] at htakes
    obtain ⟨printed, hprinted⟩ := htakes
    cases hprint.symm.trans hprinted
  | written hzero | printed hzero => exact hzero

end FileSystem.Ends

section Run

variable {setting : Option String} {arguments : List String} {outcome : Outcome}

/-- Arguments that ask for no run and for no text leave everything as it is. -/
private theorem run_of_not_understood (h : Arguments.read arguments = .error .usage) :
    F.run O setting arguments s t = ({ exitCode := 2 }, s, t) := by
  unfold FileSystem.run CommandLine.run
  rw [h]
  rfl

/-- A run on a description ends in one of these ways. -/
private theorem ends_of_evaluate {filter : Filter} (hpath : a.description = some path)
    (hrun : evaluate (F.access O) filter path a (s, t) = (outcome, s', t')) :
    F.Ends O s t a outcome s' t' := by
  have hone : (1 : UInt32) ≠ 0 := by decide
  -- The run is the computation of the payload and what the place answers.
  obtain ⟨events, hevaluate⟩ := exists_evaluate_eq F O filter path a s t
  rw [hevaluate] at hrun
  cases hpayload : F.payload? s path a with
  | error f =>
    rw [hpayload] at hrun
    cases hrun
    refine .fruitless hone fun payload hyields => ?_
    cases hpayload.symm.trans ((payload?_eq_ok_iff hpath).2 hyields)
  | ok payload =>
    have hyields := (payload?_eq_ok_iff hpath).1 hpayload
    rw [hpayload] at hrun
    dsimp only at hrun
    cases htarget : a.output with
    | none =>
      rw [htarget] at hrun
      dsimp only at hrun
      rcases hprint : O.print t (payload ++ "\n") with ⟨result, printed⟩
      rw [hprint] at hrun
      cases result with
      | ok =>
        cases hrun
        exact .printed rfl hyields htarget hprint
      | error fault =>
        cases hrun
        exact .refused hone hyields htarget hprint
    | some target =>
      rw [htarget] at hrun
      dsimp only at hrun
      cases hwrite : F.write s target payload with
      | ok written =>
        rw [hwrite] at hrun
        cases hrun
        exact .written rfl hyields htarget hwrite
      | error fault =>
        rw [hwrite] at hrun
        cases hrun
        exact .unwritten hone hyields htarget hwrite

/-- A run with arguments that are understood ends in one of these ways. -/
theorem ends_of_run (h : Arguments.read arguments = .ok a)
    (hrun : F.run O setting arguments s t = (outcome, s', t')) : F.Ends O s t a outcome s' t' := by
  unfold FileSystem.run CommandLine.run at hrun
  rw [h] at hrun
  dsimp only at hrun
  cases hpath : a.description with
  | none =>
    -- Without a description there is nothing to deliver, and the run is refused.
    have htwo : (2 : UInt32) ≠ 0 := by decide
    rw [hpath] at hrun
    cases hrun
    refine .fruitless htwo ?_
    rintro payload ⟨path, _, _, hpath', -⟩
    cases hpath.symm.trans hpath'
  | some path =>
    rw [hpath] at hrun
    exact ends_of_evaluate hpath hrun

/-- **A run delivers all or nothing.** If it ends with success, its payload has arrived in full,
where it has to go and nowhere else. If it ends with a failure, all files are as they were, and so
is the standard output, unless it is the standard output that has refused the payload; of an output
that takes a text as a whole or not at all, this is true without exception. And a run that has a
payload and a place that takes it ends with success. -/
theorem run_delivers (hhelp : Arguments.read arguments ≠ .error .help)
    (hversion : Arguments.read arguments ≠ .error .version)
    (hrun : F.run O setting arguments s t = (outcome, s', t')) :
    (outcome.exitCode = 0 → ∃ a payload, Arguments.read arguments = .ok a ∧
        F.Yields s a payload ∧ F.IsDelivered O s s' t t' payload a.output) ∧
      (outcome.exitCode ≠ 0 → s' = s ∧ (O.IsWhole → O.shown t' = O.shown t) ∧
        (O.shown t' = O.shown t ∨ ∃ a payload, Arguments.read arguments = .ok a ∧
          a.output = none ∧ F.Yields s a payload ∧ O.HasRefused t t' (payload ++ "\n"))) ∧
      ∀ a payload, Arguments.read arguments = .ok a → F.Yields s a payload →
        F.Takes O s t payload a.output → outcome.exitCode = 0 := by
  cases hread : Arguments.read arguments with
  | error r =>
    -- Only arguments that are not understood are left, and they change nothing.
    have husage : r = .usage := by
      cases r with
      | help => exact absurd hread hhelp
      | version => exact absurd hread hversion
      | usage => rfl
    rw [husage] at hread
    rw [run_of_not_understood hread] at hrun
    cases hrun
    have htwo : (2 : UInt32) ≠ 0 := by decide
    exact ⟨fun hzero => absurd hzero htwo, fun _ => ⟨rfl, fun _ => rfl, .inl rfl⟩,
      fun a _ ha => by cases ha⟩
  | ok a =>
    have hends := ends_of_run hread hrun
    refine ⟨fun hzero => ?_, fun hnonzero => ?_, fun a' payload ha' hyields htakes => ?_⟩
    · obtain ⟨payload, hyields, hdelivered⟩ := hends.isDelivered hzero
      exact ⟨a, payload, rfl, hyields, hdelivered⟩
    · obtain ⟨hfiles, hwhole, hshown⟩ := hends.unchanged hnonzero
      refine ⟨hfiles, hwhole, hshown.imp_right ?_⟩
      rintro ⟨payload, hrefused⟩
      exact ⟨a, payload, rfl, hrefused⟩
    · cases ha'
      exact hends.exitCode_eq_zero hyields htakes

end Run

/-! ### Runs on a directory tree -/

/-- The program on the tree in memory. -/
private theorem run_fileSystem (setting : Option String) (arguments : List String) (fs : Files)
    (printed : String) :
    Files.fileSystem.run Files.standardOutput setting arguments fs printed =
      run Files.access setting arguments (fs, printed) :=
  congrArg (fun files : FileAccess (StateM (Files × String)) =>
    run files setting arguments (fs, printed)) Files.access_fileSystem

/-- A description of a single step. -/
def sprout : Description := { start := .text "F" }

/-- A tree with one description in it. -/
def garden : Files where
  directories := []
  files := [(["d"], sprout.toJson.text.toUTF8)]

/-- A tree without files. -/
def fallow : Files where
  directories := []
  files := []

/-- A standard output that takes one byte of every text and refuses the rest. -/
def clogged : StandardOutput where
  State := ByteArray
  shown := id
  print shown text := (.error (.other "No space left on device (os error 28)"),
    shown ++ text.toUTF8.extract 0 1)
  shown_of_ok h := by cases h
  shown_of_error {t t' text fault} h := by
    cases h
    refine ⟨text.toUTF8.extract 0 1, text.toUTF8.extract 1 text.toUTF8.size, ?_, rfl⟩
    apply ByteArray.ext
    rw [ByteArray.data_append, ByteArray.data_extract, ByteArray.data_extract,
      Array.extract_append_extract]
    exact (Array.extract_eq_self_of_le (Nat.le_max_right 1 text.toUTF8.size)).symm

/-- A run that writes over its own description. -/
def overwriting : Outcome × Files × String :=
  run Files.access none ["d", "--print-commands", "-od"] (garden, "")

/-- A run that finds no description. -/
def groping : Outcome × Files × String :=
  run Files.access none ["d", "--output", "d"] (fallow, "")

/-- A run that cannot print its payload. -/
def choking : Outcome × Files × ByteArray :=
  Files.fileSystem.run clogged none ["d", "--print-commands"] garden .empty

theorem namesOf_d : Files.namesOf "d" = .ok ["d"] := by
  have hplain : "d".contains '\x00' = false := by simp
  have hshort : ¬ Files.maxPath < "d".utf8ByteSize := by decide
  -- One step for the letter, one for the end.
  have hsplit : "d".splitOn "/" = ["d"] := by
    rw [String.splitOn, String.splitOnAux, String.splitOnAux]
    decide +kernel
  rw [Files.namesOf, hplain, if_neg (by decide), if_neg hshort, hsplit]

/-- The sprout is written and read, loaded and expanded, wherever the payload has to go. -/
theorem yields_garden (target : Option String) : ∃ payload, Files.fileSystem.Yields garden
    { description := some "d", printCommands := true, output := target } payload := by
  have htext : Description.ofText sprout.toJson.text = .ok sprout :=
    Description.reads_read.takes.ofText_text (Description.writes_toJson (by decide +kernel))
  have hloadable : Grammar.IsLoadable sprout := by decide +kernel
  have hsteady : sprout.IsSteady := ⟨by decide +kernel, by decide +kernel, by decide +kernel⟩
  -- The description of the grammar is steady, so it can be expanded whatever its seed is.
  obtain ⟨g, hg⟩ := hloadable.exists_ofDescription
  have hloaded := Grammar.loaded_of_ofDescription hg
  obtain ⟨w, hexpand, -⟩ := hloaded.exists_expand hsteady sprout.seed 0
  have hribbon : Ribbon.ofText sprout.toJson.text =
      .ok ⟨g, sprout.generations, sprout.seed, sprout.turtle, sprout.curve⟩ := by
    rw [Ribbon.ofText, htext]
    exact Ribbon.ofDescription_eq_ok_iff.2 ⟨by decide +kernel, by decide +kernel, g, hg, rfl⟩
  have hplace : garden.place? "d" = some ["d"] :=
    Files.place?_eq_some_iff.2 ⟨["d"], namesOf_d, rfl⟩
  have hfile : Files.fileSystem.read garden "d" = .ok sprout.toJson.text.toUTF8 :=
    Files.read_path_eq_ok_iff.2 ⟨["d"], hplace, rfl⟩
  refine ⟨w.render g.symbols, _, _, _, rfl, hfile, hribbon, ?_⟩
  exact (if_pos rfl).mpr (bind_eq_ok_iff.2 ⟨w, hexpand, rfl⟩)

theorem exists_write_garden (text : String) :
    ∃ fs, Files.fileSystem.write garden "d" text = .ok fs := by
  change ∃ fs, garden.write "d" text = .ok fs
  unfold Files.write
  rw [namesOf_d]
  exact ⟨_, rfl⟩

theorem read_choking : Arguments.read ["d", "--print-commands"] =
    .ok { description := some "d", printCommands := true } := by decide +kernel

private theorem refused_of_clogged {outcome : Outcome} {fs : Files.fileSystem.State}
    {shown : clogged.State}
    (hrun : Files.fileSystem.run clogged none ["d", "--print-commands"] garden .empty =
      (outcome, fs, shown)) :
    outcome.exitCode ≠ 0 ∧ ∃ payload, clogged.HasRefused .empty shown (payload ++ "\n") := by
  obtain ⟨payload, hyields⟩ := yields_garden none
  cases ends_of_run read_choking hrun with
  | fruitless hexit hnone => exact absurd hyields (hnone payload)
  | unwritten hexit hyields htarget => cases htarget
  | refused hexit hyields htarget hprint =>
    exact ⟨hexit, _, ⟨_, hprint⟩, clogged.shown_of_error hprint⟩
  | written hexit hyields htarget => cases htarget
  | printed hexit hyields htarget hprint => cases hprint

/-- The payload of one run takes the place of the description, another run has none, and the payload
of the third is refused. -/
theorem run_delivers_garden :
    (∃ payload, Files.fileSystem.IsDelivered Files.standardOutput garden overwriting.2.1 ""
      overwriting.2.2 payload (some "d")) ∧
    (groping.2.1 = fallow ∧ groping.2.2 = "") ∧
    choking.2.1 = garden ∧ ∃ payload, clogged.HasRefused .empty choking.2.2 (payload ++ "\n") := by
  refine ⟨?_, ?_, ?_⟩
  · have hread : Arguments.read ["d", "--print-commands", "-od"] =
        .ok { description := some "d", printCommands := true, output := some "d" } := by
      decide +kernel
    have hrun : Files.fileSystem.run Files.standardOutput none ["d", "--print-commands", "-od"]
        garden "" = (overwriting.1, overwriting.2.1, overwriting.2.2) :=
      run_fileSystem none ["d", "--print-commands", "-od"] garden ""
    obtain ⟨hdelivered, -, hexit⟩ := run_delivers (by simp [hread]) (by simp [hread]) hrun
    -- There is a payload and a place for it, so the run succeeds and has delivered it.
    obtain ⟨payload, hyields⟩ := yields_garden (some "d")
    have hzero := hexit _ payload hread hyields (exists_write_garden payload)
    obtain ⟨a, payload, ha, -, hdelivered⟩ := hdelivered hzero
    cases hread.symm.trans ha
    exact ⟨payload, hdelivered⟩
  · have hread : Arguments.read ["d", "--output", "d"] =
        .ok { description := some "d", output := some "d" } := by decide +kernel
    have hrun : Files.fileSystem.run Files.standardOutput none ["d", "--output", "d"] fallow "" =
        (groping.1, groping.2.1, groping.2.2) :=
      run_fileSystem none ["d", "--output", "d"] fallow ""
    obtain ⟨hdelivered, hnothing, -⟩ := run_delivers (by simp [hread]) (by simp [hread]) hrun
    -- A success would need a file to read.
    have hexit : groping.1.exitCode ≠ 0 := by
      intro hzero
      obtain ⟨a, payload, ha, ⟨path, text, r, hpath, hfile, -⟩, -⟩ := hdelivered hzero
      cases hread.symm.trans ha
      cases hpath
      have hplace : fallow.place? "d" = some ["d"] :=
        Files.place?_eq_some_iff.2 ⟨["d"], namesOf_d, rfl⟩
      obtain ⟨place, hplace', hcontent⟩ := Files.read_path_eq_ok_iff.1 hfile
      cases hplace.symm.trans hplace'
      cases hcontent
    obtain ⟨hfiles, hshown, -⟩ := hnothing hexit
    exact ⟨hfiles, String.toByteArray_inj.1 (hshown fun t t' text fault h => by cases h)⟩
  · have hrun : Files.fileSystem.run clogged none ["d", "--print-commands"] garden .empty =
        (choking.1, choking.2.1, choking.2.2) := rfl
    obtain ⟨-, hnothing, -⟩ :=
      run_delivers (by simp [read_choking]) (by simp [read_choking]) hrun
    obtain ⟨hexit, hrefused⟩ := refused_of_clogged hrun
    exact ⟨(hnothing hexit).1, hrefused⟩

end LSystem.CommandLine
