import LSystem.Description.Json
import LSystem.Proofs.Description.Bindings
import LSystem.Proofs.Json.Records

/-!
# The format of descriptions

What a text has to be so that a description is read from it, and which description that is, without
a word about readers: `Value.IsDescription` says it of the value that the text spells. A record is
an object of its fields or a list of them in their order, and the same function of names describes
both (`Value.Gives`); a field that is not given has its default, if it has one.

That the readers agree with the format is shown form by form from the inside out, ending in
`Description.ofText_eq_ok_iff`. Two forms need more than the general lemmas. A token list is checked
as a whole before its form is looked at, which finds nothing wrong in a list of strings, as deep as
descriptions go. In bindings a key may come again, and then the last operation counts.
-/

namespace LSystem

open Json

/-! ### Token lists -/

/-- **A token list:** a string, or a list of strings. -/
inductive Json.Value.IsTokenList : Value → TokenList → Prop
  | text (s : String) : IsTokenList (.string s) (.text s)
  | tokens (ts : List String) : IsTokenList (.list (ts.map .string)) (.tokens ts)

namespace TokenList

theorem text?_eq_some_iff {t : Tree} {s : String} :
    t.text? = some s ↔ t.value? = some (.string s) := by
  constructor
  · intro h
    unfold Tree.text? at h
    split at h <;> cases h
    rfl
  · intro h
    cases Tree.value?_eq_some_iff.1 h
    rfl

private theorem mapM_text?_eq_some_iff {items : List Tree} {ts : List String} :
    items.mapM Tree.text? = some ts ↔
      List.Forall₂ (fun t v => t.value? = some v) items (ts.map .string) := by
  rw [List.forall₂_map_right_iff]
  induction items generalizing ts with
  | nil => simp [eq_comm]
  | cons t items ih =>
    rw [List.mapM_cons, List.forall₂_cons_left_iff]
    simp only [Option.bind_eq_bind, Option.bind_eq_some_iff, Option.pure_def, Option.some.injEq,
      text?_eq_some_iff, ih]
    -- Both sides read the first item and then the others.
    constructor
    · rintro ⟨s, hs, ts, hts, rfl⟩
      exact ⟨s, ts, hs, hts, rfl⟩
    · rintro ⟨s, ts, hs, hts, rfl⟩
      exact ⟨s, hs, ts, hts, rfl⟩

/-- Strings have no depth, so only the ending of a list of strings is checked. -/
private theorem checkItems_of_forall₂ {items : List Tree} {ts : List String} (depth : Nat)
    (ending : Ending)
    (h : List.Forall₂ (fun t v => t.value? = some v) items (ts.map .string)) :
    checkItems depth ending items = ending.readList := by
  rw [List.forall₂_map_right_iff] at h
  induction h with
  | nil => rw [checkItems]
  | cons hs _ ih =>
    cases Tree.value?_eq_some_iff.1 hs
    rw [checkItems]
    exact ih

theorem reads_read {depth : Nat} (h : depth < maxDepth) :
    Reader.Reads (read depth) Value.IsTokenList where
  takes := by
    rintro t v list hv hform
    cases hform with
    | text s =>
      cases Tree.value?_eq_some_iff.1 hv
      rfl
    | tokens ts =>
      cases Tree.value?_eq_some_iff.1 hv with
      | @list items _ hitems =>
        have hcheck : (Tree.list items .closed).check depth = .ok () := by
          rw [Tree.check, if_neg (Nat.not_le.2 h)]
          exact checkItems_of_forall₂ _ .closed hitems
        have hlist : ofTree? (.list items .closed) = some (.tokens ts) := by
          rw [ofTree?, mapM_text?_eq_some_iff.2 hitems]
          rfl
        rw [read, hcheck, hlist]
        rfl
  gives t list ht hlist := by
    -- The text is checked as a whole before either of the two forms is tried.
    obtain ⟨⟨⟩, hcheck, hlist⟩ := bind_eq_ok_iff.1 hlist
    cases hof : ofTree? t with
    | none =>
      rw [hof] at hlist
      cases hlist
    | some list' =>
      rw [hof] at hlist
      cases hlist
      unfold ofTree? at hof
      split at hof
      · cases hof
        exact ⟨_, rfl, .text _⟩
      · next items ending =>
        obtain ⟨ts, hts, rfl⟩ := Option.map_eq_some_iff.1 hof
        have hitems := mapM_text?_eq_some_iff.1 hts
        -- Items that are texts pass the check, so what it refused can only be the end of the list.
        rw [Tree.check, if_neg (Nat.not_le.2 h), checkItems_of_forall₂ _ _ hitems] at hcheck
        have hclosed := ht.ending_of_list hitems (Ending.not_stopsList_of_readList hcheck)
        subst hclosed
        exact ⟨_, Tree.value?_eq_some_iff.2 (.list hitems), .tokens ts⟩
      · cases hof

end TokenList

/-! ### Operations and bindings -/

namespace Turtle.Operation

/-- The names of the operations that carry no number. -/
def plainNames : List (String × Operation) :=
  [("forward", .forward), ("move", .move), ("turn_around", .turnAround),
    ("scale_step", .scaleStep), ("branch_start", .branchStart), ("branch_end", .branchEnd),
    ("ignore", .ignore)]

/-- The names of the operations that carry one. -/
def turnNames : List (String × (Float32 → Operation)) :=
  [("yaw", .yaw), ("pitch", .pitch), ("roll", .roll)]

end Turtle.Operation

open Turtle

/-- **An operation:** its name alone or as a key for `null`, or its name as a key for the number
that it carries. -/
inductive Json.Value.IsOperation : Value → Operation → Prop
  | name {name : String} {op : Operation} (h : (name, op) ∈ Operation.plainNames) :
      IsOperation (.string name) op
  | plain {name : String} {op : Operation} (h : (name, op) ∈ Operation.plainNames) :
      IsOperation (.object [(name, .null)]) op
  | turn {name : String} {turn : Float32 → Operation} {v : Value} {x : Float32}
      (h : (name, turn) ∈ Operation.turnNames) (hx : v.IsSingle x) :
      IsOperation (.object [(name, v)]) (turn x)

namespace Turtle.Operation

private theorem lookup_alternatives_eq_plain_iff {name : String} {op : Operation} :
    alternatives.lookup name = some (.plain op) ↔ (name, op) ∈ plainNames := by
  have hnodup : (alternatives.map Prod.fst).Nodup := by decide
  rw [lookup_eq_some_iff_mem hnodup]
  simp [alternatives, plainNames]

theorem lookup_alternatives_eq_carrying_iff {name : String} {read : Reader Operation} :
    alternatives.lookup name = some (.carrying read) ↔
      ∃ turn, (name, turn) ∈ turnNames ∧ read = fun t => (readSingle t).map turn := by
  have hnodup : (alternatives.map Prod.fst).Nodup := by decide
  rw [lookup_eq_some_iff_mem hnodup]
  simp [alternatives, turnNames, or_and_right, exists_or]

/-- The form of the numbers that an operation of a name carries. -/
def Carries (name : String) (v : Value) (op : Operation) : Prop :=
  ∃ turn, (name, turn) ∈ turnNames ∧ ∃ x, v.IsSingle x ∧ turn x = op

private theorem isOneOf_alternatives_iff {v : Value} {op : Operation} :
    v.IsOneOf alternatives Carries op ↔ v.IsOperation op := by
  -- The table of alternatives has the plain operations and the turns, and nothing else.
  constructor
  · intro h
    cases h with
    | name h => exact .name (lookup_alternatives_eq_plain_iff.1 h)
    | plain h => exact .plain (lookup_alternatives_eq_plain_iff.1 h)
    | carrying _ hv =>
      obtain ⟨turn, hturn, x, hx, rfl⟩ := hv
      exact .turn hturn hx
  · intro h
    cases h with
    | name h => exact .name (lookup_alternatives_eq_plain_iff.2 h)
    | plain h => exact .plain (lookup_alternatives_eq_plain_iff.2 h)
    | turn h hx =>
      exact .carrying (lookup_alternatives_eq_carrying_iff.2 ⟨_, h, rfl⟩) ⟨_, h, _, hx, rfl⟩

private theorem nodup_turnNames : (turnNames.map Prod.fst).Nodup := by decide

theorem reads_read : Reader.Reads read Value.IsOperation := by
  refine (reads_readAlternative ?_).congr fun v op => isOneOf_alternatives_iff
  intro name read hlookup
  obtain ⟨turn, hturn, rfl⟩ := lookup_alternatives_eq_carrying_iff.1 hlookup
  refine (reads_readSingle.map turn).congr fun v op => ?_
  constructor
  · exact fun hop => ⟨turn, hturn, hop⟩
  · rintro ⟨turn', hturn', hop⟩
    -- A name has one turn.
    have hlookup := (lookup_eq_some_iff_mem nodup_turnNames).2 hturn
    have hlookup' := (lookup_eq_some_iff_mem nodup_turnNames).2 hturn'
    cases hlookup.symm.trans hlookup'
    exact hop

end Turtle.Operation

/-- **Bindings:** an object of operations, of which the last one counts when a key comes again. -/
def Json.Value.IsBindings (v : Value) (bs : Bindings) : Prop :=
  ∃ pairs, v.IsObjectOf Value.IsOperation pairs ∧ ∀ key, bs.get? key = pairs.reverse.lookup key

theorem Bindings.reads_read : Reader.Reads read Value.IsBindings := by
  refine ((reads_readPairs Operation.reads_read).map ofList).congr fun v bs => ?_
  unfold Value.IsBindings
  simp only [ofList_eq_iff]

/-! ### Rules -/

/-- What is given for a rule. -/
structure Rule.IsGiven (given : List (String × Value)) (r : Rule) : Prop where
  symbol : IsGivenFor "symbol" Value.IsText given r.symbol
  replacement : IsGivenFor "replacement" Value.IsTokenList given r.replacement
  weight : IsGivenOr "weight" 1 (fun v k => v.IsNatural k.toNat) given r.weight

/-- **A rule:** an object or a list of a symbol, a replacement and, if it is not one, a weight. -/
def Json.Value.IsRule (v : Value) (r : Rule) : Prop :=
  ∃ given, v.Gives ["symbol", "replacement", "weight"] given ∧ r.IsGiven given

namespace Rule

/-- The parts of a rule, inside `depth` lists and objects. -/
def parts (depth : Nat) : List (Json.Part Rule) :=
  [.mandatory "symbol" readString Value.IsText Rule.symbol fun symbol r => { r with symbol },
    .mandatory "replacement" (TokenList.read (depth + 1)) Value.IsTokenList Rule.replacement
      fun replacement r => { r with replacement },
    .optional "weight" 1 readUInt32 (fun v k => v.IsNatural k.toNat) Rule.weight
      fun weight r => { r with weight }]

theorem anatomy (depth : Nat) : Anatomy (parts depth) (record depth).blank where
  names := by
    change ["symbol", "replacement", "weight"].Nodup
    decide
  get_set := by simp [parts, Part.mandatory, Part.optional]
  independent := by simp [parts, Part.mandatory, Part.optional, Part.Independent]
  ext r r' h := by
    simp only [parts, List.forall_mem_cons] at h
    obtain ⟨hsymbol, hreplacement, hweight, -⟩ := h
    cases r
    cases r'
    cases hsymbol
    cases hreplacement
    cases hweight
    rfl
  blank := by simp [parts, Part.mandatory, Part.optional, record]

theorem isRecord_iff {depth : Nat} {v : Value} {r : Rule} :
    v.IsRecord (parts depth) r ↔ v.IsRule r := by
  unfold Value.IsRecord Value.IsRule
  refine exists_congr fun given => and_congr_right fun _ => ?_
  simp only [parts, List.forall_mem_cons, Part.isGiven_mandatory, Part.isGiven_optional]
  constructor
  · rintro ⟨hsymbol, hreplacement, hweight, -⟩
    exact ⟨hsymbol, hreplacement, hweight⟩
  · rintro ⟨hsymbol, hreplacement, hweight⟩
    exact ⟨hsymbol, hreplacement, hweight, List.forall_mem_nil _⟩

theorem reads_read {depth : Nat} (h : depth + 1 < maxDepth) :
    Reader.Reads (record depth).read Value.IsRule := by
  refine ((anatomy depth).reads_read rfl rfl ?_).congr fun v r => isRecord_iff
  simp only [parts, List.forall_mem_cons]
  exact ⟨reads_readString, TokenList.reads_read h, reads_readUInt32, List.forall_mem_nil _⟩

end Rule

/-! ### Settings -/

/-- What is given for the settings of a turtle. -/
structure Turtle.Settings.IsGiven (given : List (String × Value)) (s : Settings) : Prop where
  step : IsGivenOr "step" 1 Value.IsSingle given s.step
  angle : IsGivenOr "angle" 90 Value.IsSingle given s.angle
  lengthFactor : IsGivenOr "length_factor" 0.9 Value.IsSingle given s.lengthFactor

/-- **The settings of a turtle:** an object or a list of up to three numbers. -/
def Json.Value.IsTurtleSettings (v : Value) (s : Turtle.Settings) : Prop :=
  ∃ given, v.Gives ["step", "angle", "length_factor"] given ∧ s.IsGiven given

namespace Turtle.Settings

/-- The parts of the settings of a turtle. -/
def parts : List (Json.Part Settings) :=
  [.optional "step" 1 readSingle Value.IsSingle step fun step s => { s with step },
    .optional "angle" 90 readSingle Value.IsSingle angle fun angle s => { s with angle },
    .optional "length_factor" 0.9 readSingle Value.IsSingle lengthFactor
      fun lengthFactor s => { s with lengthFactor }]

theorem anatomy : Anatomy parts record.blank where
  names := by
    change ["step", "angle", "length_factor"].Nodup
    decide
  get_set := by simp [parts, Part.optional]
  independent := by simp [parts, Part.optional, Part.Independent]
  ext s s' h := by
    simp only [parts, List.forall_mem_cons] at h
    obtain ⟨hstep, hangle, hfactor, -⟩ := h
    cases s
    cases s'
    cases hstep
    cases hangle
    cases hfactor
    rfl
  blank := by simp [parts, Part.optional, record]

theorem isRecord_iff {v : Value} {s : Settings} :
    v.IsRecord parts s ↔ v.IsTurtleSettings s := by
  unfold Value.IsRecord Value.IsTurtleSettings
  refine exists_congr fun given => and_congr_right fun _ => ?_
  simp only [parts, List.forall_mem_cons, Part.isGiven_optional]
  constructor
  · rintro ⟨hstep, hangle, hfactor, -⟩
    exact ⟨hstep, hangle, hfactor⟩
  · rintro ⟨hstep, hangle, hfactor⟩
    exact ⟨hstep, hangle, hfactor, List.forall_mem_nil _⟩

theorem reads_read : Reader.Reads record.read Value.IsTurtleSettings := by
  refine (anatomy.reads_read rfl rfl ?_).congr fun v s => isRecord_iff
  simp only [parts, List.forall_mem_cons]
  exact ⟨reads_readSingle, reads_readSingle, reads_readSingle, List.forall_mem_nil _⟩

end Turtle.Settings

/-- **The settings of curves:** an object or a list of at most one number. -/
def Json.Value.IsCurveSettings (v : Value) (s : Curve.Settings) : Prop :=
  ∃ given, v.Gives ["width"] given ∧ IsGivenOr "width" 0.15 Value.IsSingle given s.width

namespace Curve.Settings

/-- The only part of the settings of curves. -/
def parts : List (Json.Part Settings) :=
  [.optional "width" 0.15 readSingle Value.IsSingle width fun width s => { s with width }]

theorem anatomy : Anatomy parts record.blank where
  names := List.nodup_singleton _
  get_set := by simp [parts, Part.optional]
  independent := List.pairwise_singleton _ _
  ext s s' h := by
    cases s
    cases s'
    cases h _ (List.mem_singleton_self _)
    rfl
  blank := by simp [parts, Part.optional, record]

theorem isRecord_iff {v : Value} {s : Settings} : v.IsRecord parts s ↔ v.IsCurveSettings s := by
  unfold Value.IsRecord Value.IsCurveSettings
  refine exists_congr fun given => and_congr_right fun _ => ?_
  simp only [parts, List.forall_mem_singleton, Part.isGiven_optional]

theorem reads_read : Reader.Reads record.read Value.IsCurveSettings := by
  refine (anatomy.reads_read rfl rfl ?_).congr fun v s => isRecord_iff
  exact List.forall_mem_singleton.2 reads_readSingle

end Curve.Settings

/-! ### Descriptions -/

/-- What is given for a description. -/
structure Description.IsGiven (given : List (String × Value)) (d : Description) : Prop where
  start : IsGivenFor "axiom" Value.IsTokenList given d.start
  rules : IsGivenOr "rules" [] (Value.IsListOf Value.IsRule) given d.rules
  bindings : IsGivenOr "commands" .empty Value.IsBindings given d.bindings
  generations : IsGivenOr "generations" 0 (fun v k => v.IsNatural k.toNat) given d.generations
  seed : IsGivenOr "seed" 0 (fun v k => v.IsNatural k.toNat) given d.seed
  turtle : IsGivenOr "turtle" {} Value.IsTurtleSettings given d.turtle
  curve : IsGivenOr "curve" {} Value.IsCurveSettings given d.curve

/-- **A description:** an object or a list of its parts, of which only the start word has to be
there. -/
def Json.Value.IsDescription (v : Value) (d : Description) : Prop :=
  ∃ given, v.Gives ["axiom", "rules", "commands", "generations", "seed", "turtle", "curve"] given ∧
    d.IsGiven given

namespace Description

/-- The parts of a description. -/
def parts : List (Json.Part Description) :=
  [.mandatory "axiom" (TokenList.read 1) Value.IsTokenList start fun start d => { d with start },
    .optional "rules" [] (readList (Rule.record 2).read) (Value.IsListOf Value.IsRule) rules
      fun rules d => { d with rules },
    .optional "commands" .empty Bindings.read Value.IsBindings bindings
      fun bindings d => { d with bindings },
    .optional "generations" 0 readUInt32 (fun v k => v.IsNatural k.toNat) generations
      fun generations d => { d with generations },
    .optional "seed" 0 (readUInt64 "u64") (fun v k => v.IsNatural k.toNat) seed
      fun seed d => { d with seed },
    .optional "turtle" {} Turtle.Settings.record.read Value.IsTurtleSettings turtle
      fun turtle d => { d with turtle },
    .optional "curve" {} Curve.Settings.record.read Value.IsCurveSettings curve
      fun curve d => { d with curve }]

theorem anatomy : Anatomy parts record.blank where
  names := by
    change ["axiom", "rules", "commands", "generations", "seed", "turtle", "curve"].Nodup
    decide
  get_set := by simp [parts, Part.mandatory, Part.optional]
  independent := by simp [parts, Part.mandatory, Part.optional, Part.Independent]
  ext d d' h := by
    simp only [parts, List.forall_mem_cons] at h
    obtain ⟨hstart, hrules, hbindings, hgenerations, hseed, hturtle, hcurve, -⟩ := h
    cases d
    cases d'
    cases hstart
    cases hrules
    cases hbindings
    cases hgenerations
    cases hseed
    cases hturtle
    cases hcurve
    rfl
  blank := by simp [parts, Part.mandatory, Part.optional, record]

theorem isRecord_iff {v : Value} {d : Description} :
    v.IsRecord parts d ↔ v.IsDescription d := by
  unfold Value.IsRecord Value.IsDescription
  refine exists_congr fun given => and_congr_right fun _ => ?_
  simp only [parts, List.forall_mem_cons, Part.isGiven_mandatory, Part.isGiven_optional]
  constructor
  · rintro ⟨hstart, hrules, hbindings, hgenerations, hseed, hturtle, hcurve, -⟩
    exact ⟨hstart, hrules, hbindings, hgenerations, hseed, hturtle, hcurve⟩
  · rintro ⟨hstart, hrules, hbindings, hgenerations, hseed, hturtle, hcurve⟩
    exact ⟨hstart, hrules, hbindings, hgenerations, hseed, hturtle, hcurve, List.forall_mem_nil _⟩

theorem reads_read : Reader.Reads read Value.IsDescription := by
  refine (anatomy.reads_read rfl rfl ?_).congr fun v d => isRecord_iff
  simp only [parts, List.forall_mem_cons]
  exact ⟨TokenList.reads_read (by decide), reads_readList (Rule.reads_read (by decide)),
    Bindings.reads_read, reads_readUInt32, reads_readUInt64 "u64", Turtle.Settings.reads_read,
    Curve.Settings.reads_read, List.forall_mem_nil _⟩

/-- **Descriptions are read from the texts of the format:** a text is accepted if it spells a value
that is a description, and that description is what is read. -/
theorem ofText_eq_ok_iff {text : String} {d : Description} :
    ofText text = .ok d ↔ ∃ v, Value.ofText? text = some v ∧ v.IsDescription d :=
  reads_read.ofText_eq_ok_iff_exists

end Description

end LSystem
