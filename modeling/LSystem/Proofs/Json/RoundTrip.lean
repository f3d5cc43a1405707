import LSystem.Curve.Json
import LSystem.Proofs.Description.Format
import LSystem.Proofs.Json.Writing

/-!
# Data written and read back

Descriptions, buffers, traces and frames are read back from the texts that are written for them
(`ofText_text_toJson`), provided that their numbers are finite and that what is written for these
reads back. A token list comes back in the form in which it was, since that is part of the data.

Nothing is shown about reading here: the value that is written for data has the form from which the
reader takes these data, and its numerals are ones that JSON allows (`Value.Writes`). For
descriptions the form is that of the format. Points, events, traces, buffers and frames get forms
of their own here, as far as their readers take them.
-/

namespace LSystem

open Json Space

namespace Json

variable {α : Type} {Form : Value → α → Prop}

/-- **A value that is fit to be written for data:** it has the form that the data are read from, and
its text spells it. -/
structure Value.Writes (Form : Value → α → Prop) (v : Value) (a : α) : Prop where
  clean : v.IsClean
  form : Form v a

/-- What is written for data is read as the data. -/
theorem Reader.Takes.ofText_text {read : Reader α} (h : read.Takes Form) {v : Value} {a : α}
    (hv : v.Writes Form a) : Reader.ofText read v.text = .ok a :=
  h.ofText_eq_ok hv.clean.ofText?_text hv.form

theorem writes_string (s : String) : (Value.string s).Writes Value.IsText s := ⟨.string s, rfl⟩

theorem writes_ofNat (toNat : α → Nat) (a : α) :
    (Value.ofNat (toNat a)).Writes (fun v a => v.IsNatural (toNat a)) a :=
  ⟨isClean_ofNat (toNat a), isNatural_ofNat (toNat a)⟩

theorem writes_ofSingle {x : Float32} (h : ReadsBack x) :
    (Value.ofSingle x).Writes Value.IsSingle x :=
  ⟨(isClean_and_isSingle h).1, (isClean_and_isSingle h).2⟩

theorem writes_list {as : List α} {toJson : α → Value} (h : ∀ a ∈ as, (toJson a).Writes Form a) :
    (Value.list (as.map toJson)).Writes (Value.IsListOf Form) as where
  clean := by
    refine .list fun v hv => ?_
    obtain ⟨a, ha, rfl⟩ := List.mem_map.1 hv
    exact (h a ha).clean
  form := by
    refine ⟨_, rfl, ?_⟩
    rw [List.forall₂_map_left_iff, List.forall₂_same]
    exact fun a ha => (h a ha).form

theorem writes_ofSingles {xs : List Float32} (h : ∀ x ∈ xs, ReadsBack x) :
    (Value.ofSingles xs).Writes (Value.IsListOf Value.IsSingle) xs :=
  writes_list fun x hx => writes_ofSingle (h x hx)

theorem Value.Writes.imp {Form' : Value → α → Prop} {v : Value} {a : α} (hv : v.Writes Form a)
    (h : Form v a → Form' v a) : v.Writes Form' a :=
  ⟨hv.clean, h hv.form⟩

/-- **A record is written part by part,** as an object with a member for each of them. -/
theorem writes_record {σ : Type} {parts : List (Part σ)} {members : List (String × Value)} {s : σ}
    (hnodup : (parts.map Part.name).Nodup)
    (h : List.Forall₂ (fun p m => p.name = m.1 ∧ m.2.Writes p.Form (p.get s)) parts members) :
    (Value.object members).Writes (Value.IsRecord parts) s := by
  have hnames : parts.map Part.name = members.map Prod.fst :=
    map_eq_map_iff_forall₂.2 (h.imp fun _ _ hm => hm.1)
  -- Every name is written, and written once, so each part finds its own member again.
  refine ⟨.object fun m hm => ?_, members, .object (fun m hm => ?_) (hnames ▸ hnodup), ?_⟩
  · obtain ⟨p, -, -, hwrites⟩ := exists_mem_left_of_forall₂ h hm
    exact hwrites.clean
  · rw [hnames]
    exact List.mem_map_of_mem hm
  · intro p hp
    obtain ⟨m, hm, hname, hwrites⟩ := exists_mem_right_of_forall₂ h hp
    have hlookup : members.lookup p.name = some m.2 :=
      (lookup_eq_some_iff_mem (hnames ▸ hnodup)).2 (hname ▸ hm)
    rw [Part.IsGiven, hlookup]
    exact hwrites.form

end Json

/-! ### Descriptions -/

/-- The number that an operation carries. -/
def Turtle.Operation.singles : Operation → List Float32
  | .yaw x | .pitch x | .roll x => [x]
  | _ => []

/-- The numbers of single precision in a description. -/
def Description.singles (d : Description) : List Float32 :=
  d.bindings.toList.flatMap (fun b => b.2.singles) ++
    [d.turtle.step, d.turtle.angle, d.turtle.lengthFactor, d.curve.width]

theorem TokenList.writes_toJson (list : TokenList) : list.toJson.Writes Value.IsTokenList list := by
  cases list with
  | text s => exact ⟨.string s, .text s⟩
  | tokens ts =>
    refine ⟨.list fun v hv => ?_, .tokens ts⟩
    obtain ⟨s, -, rfl⟩ := List.mem_map.1 hv
    exact .string s

open Turtle in
theorem Turtle.Operation.writes_toJson {op : Operation} (h : ∀ x ∈ op.singles, ReadsBack x) :
    op.toJson.Writes Value.IsOperation op := by
  have hplain {name : String} (hname : (name, op) ∈ plainNames) :
      (Value.string name).Writes Value.IsOperation op := ⟨.string name, .name hname⟩
  have hturn {name : String} {turn : Float32 → Operation} {x : Float32}
      (hname : (name, turn) ∈ turnNames) (hx : ReadsBack x) :
      (Value.object [(name, .ofSingle x)]).Writes Value.IsOperation (turn x) :=
    ⟨.object (List.forall_mem_singleton.2 (writes_ofSingle hx).clean),
      .turn hname (writes_ofSingle hx).form⟩
  -- The three turns carry a number; every other operation is a bare name.
  cases op with
  | yaw x => exact hturn (by simp [turnNames]) (h x (List.mem_singleton_self x))
  | pitch x => exact hturn (by simp [turnNames]) (h x (List.mem_singleton_self x))
  | roll x => exact hturn (by simp [turnNames]) (h x (List.mem_singleton_self x))
  | _ => exact hplain (by simp [plainNames])

theorem Bindings.writes_toJson {bs : Bindings}
    (h : ∀ b ∈ bs.toList, b.2.toJson.Writes Value.IsOperation b.2) :
    bs.toJson.Writes Value.IsBindings bs where
  clean := by
    refine .object fun m hm => ?_
    obtain ⟨b, hb, rfl⟩ := List.mem_map.1 hm
    exact (h b hb).clean
  form := by
    refine ⟨bs.toList, ⟨_, rfl, ?_⟩, ofList_eq_iff.1 (ofList_toList bs)⟩
    rw [List.forall₂_map_left_iff, List.forall₂_same]
    exact fun b hb => ⟨rfl, (h b hb).form⟩

theorem Rule.writes_toJson (r : Rule) : r.toJson.Writes Value.IsRule r := by
  have hwritten : r.toJson.Writes (Value.IsRecord (parts 0)) r :=
    writes_record (anatomy 0).names (.cons ⟨rfl, writes_string r.symbol⟩
      (.cons ⟨rfl, r.replacement.writes_toJson⟩
        (.cons ⟨rfl, writes_ofNat UInt32.toNat r.weight⟩ .nil)))
  exact hwritten.imp isRecord_iff.1

theorem Turtle.Settings.writes_toJson {s : Settings} (hstep : ReadsBack s.step)
    (hangle : ReadsBack s.angle) (hfactor : ReadsBack s.lengthFactor) :
    s.toJson.Writes Value.IsTurtleSettings s := by
  have hwritten : s.toJson.Writes (Value.IsRecord parts) s :=
    writes_record anatomy.names (.cons ⟨rfl, writes_ofSingle hstep⟩
      (.cons ⟨rfl, writes_ofSingle hangle⟩ (.cons ⟨rfl, writes_ofSingle hfactor⟩ .nil)))
  exact hwritten.imp isRecord_iff.1

theorem Curve.Settings.writes_toJson {s : Settings} (h : ReadsBack s.width) :
    s.toJson.Writes Value.IsCurveSettings s := by
  have hwritten : s.toJson.Writes (Value.IsRecord parts) s :=
    writes_record anatomy.names (.cons ⟨rfl, writes_ofSingle h⟩ .nil)
  exact hwritten.imp isRecord_iff.1

theorem Description.writes_toJson {d : Description} (h : ∀ x ∈ d.singles, ReadsBack x) :
    d.toJson.Writes Value.IsDescription d := by
  -- The singles of a description are those of its commands, then those of its settings.
  obtain ⟨hbindings, hsettings⟩ := List.forall_mem_append.1 h
  simp only [List.forall_mem_cons] at hsettings
  obtain ⟨hstep, hangle, hfactor, hwidth, -⟩ := hsettings
  have hstart := d.start.writes_toJson
  have hrules := writes_list fun r (_ : r ∈ d.rules) => r.writes_toJson
  have hbindings := Bindings.writes_toJson fun b (hb : b ∈ d.bindings.toList) =>
    Turtle.Operation.writes_toJson fun x hx => hbindings x (List.mem_flatMap.2 ⟨b, hb, hx⟩)
  have hgenerations := writes_ofNat UInt32.toNat d.generations
  have hseed := writes_ofNat UInt64.toNat d.seed
  have hturtle := Turtle.Settings.writes_toJson hstep hangle hfactor
  have hcurve := Curve.Settings.writes_toJson hwidth
  have hwritten : d.toJson.Writes (Value.IsRecord parts) d :=
    writes_record anatomy.names (.cons ⟨rfl, hstart⟩ (.cons ⟨rfl, hrules⟩ (.cons ⟨rfl, hbindings⟩
      (.cons ⟨rfl, hgenerations⟩ (.cons ⟨rfl, hseed⟩ (.cons ⟨rfl, hturtle⟩
        (.cons ⟨rfl, hcurve⟩ .nil)))))))
  exact hwritten.imp isRecord_iff.1

/-! ### Vectors, points and events -/

namespace Space

/-- The items of a list of numbers are read one by one. -/
theorem exists_items {t : Tree} {v : Value} {xs : List Float32} (hv : t.value? = some v)
    (h : v.IsListOf Value.IsSingle xs) :
    ∃ items, t = .list items .closed ∧ List.Forall₂ (fun t x => readSingle t = .ok x) items xs := by
  obtain ⟨vs, rfl, hvs⟩ := h
  cases Tree.value?_eq_some_iff.1 hv with
  | list hitems =>
    refine ⟨_, rfl, (forall₂_of_common hitems hvs.flip).imp ?_⟩
    rintro t x ⟨v, hv, hx⟩
    exact reads_readSingle.takes t v x hv hx

theorem Vec3.takes_read :
    Reader.Takes Vec3.read fun v p => v.IsListOf Value.IsSingle p.toList := by
  intro t v p hv h
  obtain ⟨items, rfl, hitems⟩ := exists_items hv h
  obtain _ | ⟨ha, _ | ⟨hb, _ | ⟨hc, _ | _⟩⟩⟩ := hitems
  simp only [Vec3.read, Vec3.fields, FieldSpec.mandatory, readPositions, ha, hb, hc]
  rfl

theorem Rotation.takes_read :
    Reader.Takes Rotation.read fun v q => v.IsListOf Value.IsSingle q.toList := by
  intro t v q hv h
  obtain ⟨items, rfl, hitems⟩ := exists_items hv h
  obtain _ | ⟨ha, _ | ⟨hb, _ | ⟨hc, _ | ⟨hd, _ | _⟩⟩⟩⟩ := hitems
  simp only [Rotation.read, Rotation.fields, FieldSpec.mandatory, readPositions, ha, hb, hc, hd]
  rfl

theorem Vec3.writes_toJson {p : Vec3} (h : ∀ x ∈ p.toList, ReadsBack x) :
    p.toJson.Writes (fun v (p : Vec3) => v.IsListOf Value.IsSingle p.toList) p :=
  ⟨(writes_ofSingles h).clean, (writes_ofSingles h).form⟩

theorem Rotation.writes_toJson {q : Rotation} (h : ∀ x ∈ q.toList, ReadsBack x) :
    q.toJson.Writes (fun v (q : Rotation) => v.IsListOf Value.IsSingle q.toList) q :=
  ⟨(writes_ofSingles h).clean, (writes_ofSingles h).form⟩

end Space

namespace Curve

/-- The coordinates of a point. -/
def Point.singles (p : Point) : List Float32 := p.position.toList ++ p.normal.toList

/-- The parts of a point. -/
def Point.parts : List (Json.Part Point) :=
  [.mandatory "position" Vec3.read (fun v p => v.IsListOf Value.IsSingle p.toList) Point.position
      fun position p => { p with position },
    .mandatory "normal" Vec3.read (fun v p => v.IsListOf Value.IsSingle p.toList) Point.normal
      fun normal p => { p with normal }]

theorem Point.anatomy : Anatomy parts record.blank where
  names := by
    change ["position", "normal"].Nodup
    decide
  get_set := by simp [parts, Part.mandatory]
  independent := by simp [parts, Part.mandatory, Part.Independent]
  ext p p' h := by
    simp only [parts, List.forall_mem_cons] at h
    obtain ⟨hposition, hnormal, -⟩ := h
    cases p
    cases p'
    cases hposition
    cases hnormal
    rfl
  blank := by simp [parts, Part.mandatory]

theorem Point.takes_read : Reader.Takes record.read (Value.IsRecord parts) := by
  refine anatomy.takes_read rfl ?_
  simp only [parts, List.forall_mem_cons]
  exact ⟨Vec3.takes_read, Vec3.takes_read, List.forall_mem_nil _⟩

theorem Point.writes_toJson {p : Point} (h : ∀ x ∈ p.singles, ReadsBack x) :
    p.toJson.Writes (Value.IsRecord parts) p := by
  obtain ⟨hposition, hnormal⟩ := List.forall_mem_append.1 h
  have hposition := Vec3.writes_toJson hposition
  have hnormal := Vec3.writes_toJson hnormal
  exact writes_record anatomy.names (.cons ⟨rfl, hposition⟩ (.cons ⟨rfl, hnormal⟩ .nil))

/-- The coordinates of an event. -/
def Event.singles : Event → List Float32
  | .point p => p.singles
  | .break => []

/-- **An event:** its name alone, or as a key for a point. -/
inductive Event.IsEvent : Value → Event → Prop
  | point {v : Value} {p : Point} (h : v.IsRecord Point.parts p) :
      IsEvent (.object [("Point", v)]) (.point p)
  | break : IsEvent (.string "Break") .break

theorem Event.takes_read : Reader.Takes read IsEvent := by
  rintro t v e hv h
  cases h with
  | @point v p h =>
    obtain ⟨u, rfl, hu⟩ := exists_member_of_value? hv
    have hpoint := Point.takes_read u v p hu h
    exact readAlternative_member.2 (.inr ⟨_, rfl, map_eq_ok_iff.2 ⟨p, hpoint, rfl⟩⟩)
  | «break» =>
    cases Tree.value?_eq_some_iff.1 hv
    exact readAlternative_name.2 rfl

theorem Event.writes_toJson {e : Event} (h : ∀ x ∈ e.singles, ReadsBack x) :
    e.toJson.Writes IsEvent e := by
  cases e with
  | point p =>
    have hpoint := Point.writes_toJson (p := p) h
    exact ⟨.object (List.forall_mem_singleton.2 hpoint.clean), .point hpoint.form⟩
  | «break» => exact ⟨.string _, .break⟩

/-! ### Traces, buffers and frames -/

/-- The coordinates in a trace. -/
def Trace.singles (t : Trace) : List Float32 := t.toList.flatMap Event.singles

/-- The only part of a trace. -/
def Trace.parts : List (Json.Part Trace) :=
  [.mandatory "events" (readList Event.read) (Value.IsListOf Event.IsEvent) Trace.toList
    fun events _ => .ofList events]

theorem Trace.anatomy : Anatomy parts record.blank where
  names := List.nodup_singleton _
  get_set := by simp [parts, Part.mandatory]
  independent := List.pairwise_singleton _ _
  ext t t' h := by
    have hlist : t.toList = t'.toList := h _ (List.mem_singleton_self _)
    cases t
    cases t'
    exact congrArg Trace.mk (Array.toList_inj.1 hlist)
  blank := by simp [parts, Part.mandatory]

theorem Trace.takes_read : Reader.Takes record.read (Value.IsRecord parts) := by
  refine anatomy.takes_read rfl ?_
  exact List.forall_mem_singleton.2 (takes_readList Event.takes_read)

theorem Trace.writes_toJson {t : Trace} (h : ∀ x ∈ t.singles, ReadsBack x) :
    t.toJson.Writes (Value.IsRecord parts) t := by
  have hevents := writes_list fun e (he : e ∈ t.toList) =>
    Event.writes_toJson fun x hx => h x (List.mem_flatMap.2 ⟨e, he, hx⟩)
  exact writes_record anatomy.names (.cons ⟨rfl, hevents⟩ .nil)

/-- The numbers of single precision in a buffer. -/
def Buffer.singles (b : Buffer) : List Float32 :=
  b.positions.toList ++ b.normals.toList ++ [b.width]

/-- The parts of a buffer. -/
def Buffer.parts : List (Json.Part Buffer) :=
  [.mandatory "vertices_per_curve" (readList (readUInt64 "usize"))
      (Value.IsListOf fun v k => v.IsNatural k.toNat) (fun b => b.vertexCounts.toList)
      fun counts b => { b with vertexCounts := counts.toArray },
    .mandatory "positions" (readList readSingle) (Value.IsListOf Value.IsSingle)
      (fun b => b.positions.toList) fun xs b => { b with positions := xs.toArray },
    .mandatory "normals" (readList readSingle) (Value.IsListOf Value.IsSingle)
      (fun b => b.normals.toList) fun xs b => { b with normals := xs.toArray },
    .mandatory "width" readSingle Value.IsSingle Buffer.width fun width b => { b with width }]

theorem Buffer.anatomy : Anatomy parts record.blank where
  names := by
    change ["vertices_per_curve", "positions", "normals", "width"].Nodup
    decide
  get_set := by simp [parts, Part.mandatory]
  independent := by simp [parts, Part.mandatory, Part.Independent]
  ext b b' h := by
    simp only [parts, List.forall_mem_cons] at h
    obtain ⟨hcounts, hpositions, hnormals, hwidth, -⟩ := h
    -- The parts read the arrays as lists, and a list gives its array back.
    have hcounts : b.vertexCounts = b'.vertexCounts := Array.toList_inj.1 hcounts
    have hpositions : b.positions = b'.positions := Array.toList_inj.1 hpositions
    have hnormals : b.normals = b'.normals := Array.toList_inj.1 hnormals
    have hwidth : b.width = b'.width := hwidth
    cases b
    cases b'
    cases hcounts
    cases hpositions
    cases hnormals
    cases hwidth
    rfl
  blank := by simp [parts, Part.mandatory]

theorem Buffer.takes_read : Reader.Takes record.read (Value.IsRecord parts) := by
  refine anatomy.takes_read rfl ?_
  have hsingles := takes_readList reads_readSingle.takes
  simp only [parts, List.forall_mem_cons]
  exact ⟨takes_readList (reads_readUInt64 "usize").takes, hsingles, hsingles,
    reads_readSingle.takes, List.forall_mem_nil _⟩

theorem Buffer.writes_toJson {b : Buffer} (h : ∀ x ∈ b.singles, ReadsBack x) :
    b.toJson.Writes (Value.IsRecord parts) b := by
  obtain ⟨hcoordinates, hwidth⟩ := List.forall_mem_append.1 h
  obtain ⟨hpositions, hnormals⟩ := List.forall_mem_append.1 hcoordinates
  have hcounts := writes_list fun n (_ : n ∈ b.vertexCounts.toList) => writes_ofNat UInt64.toNat n
  have hpositions := writes_ofSingles hpositions
  have hnormals := writes_ofSingles hnormals
  have hwidth := writes_ofSingle (hwidth b.width (List.mem_singleton_self _))
  exact writes_record anatomy.names (.cons ⟨rfl, hcounts⟩ (.cons ⟨rfl, hpositions⟩
    (.cons ⟨rfl, hnormals⟩ (.cons ⟨rfl, hwidth⟩ .nil))))

end Curve

namespace Turtle.Frame

/-- The numbers of a frame. -/
def singles (f : Frame) : List Float32 := f.position.toList ++ f.rotation.toList ++ [f.step]

/-- The parts of a frame. -/
def parts : List (Json.Part Frame) :=
  [.mandatory "position" Vec3.read (fun v p => v.IsListOf Value.IsSingle p.toList) position
      fun position f => { f with position },
    .mandatory "rotation" Rotation.read (fun v q => v.IsListOf Value.IsSingle q.toList) rotation
      fun rotation f => { f with rotation },
    .mandatory "step" readSingle Value.IsSingle step fun step f => { f with step }]

theorem anatomy : Anatomy parts record.blank where
  names := by
    change ["position", "rotation", "step"].Nodup
    decide
  get_set := by simp [parts, Part.mandatory]
  independent := by simp [parts, Part.mandatory, Part.Independent]
  ext f f' h := by
    simp only [parts, List.forall_mem_cons] at h
    obtain ⟨hposition, hrotation, hstep, -⟩ := h
    cases f
    cases f'
    cases hposition
    cases hrotation
    cases hstep
    rfl
  blank := by simp [parts, Part.mandatory]

theorem takes_read : Reader.Takes record.read (Value.IsRecord parts) := by
  refine anatomy.takes_read rfl ?_
  simp only [parts, List.forall_mem_cons]
  exact ⟨Vec3.takes_read, Rotation.takes_read, reads_readSingle.takes, List.forall_mem_nil _⟩

theorem writes_toJson {f : Frame} (h : ∀ x ∈ f.singles, ReadsBack x) :
    f.toJson.Writes (Value.IsRecord parts) f := by
  obtain ⟨hcoordinates, hstep⟩ := List.forall_mem_append.1 h
  obtain ⟨hposition, hrotation⟩ := List.forall_mem_append.1 hcoordinates
  have hposition := Vec3.writes_toJson hposition
  have hrotation := Rotation.writes_toJson hrotation
  have hstep := writes_ofSingle (hstep f.step (List.mem_singleton_self _))
  exact writes_record anatomy.names (.cons ⟨rfl, hposition⟩ (.cons ⟨rfl, hrotation⟩
    (.cons ⟨rfl, hstep⟩ .nil)))

end Turtle.Frame

/-! ### All data -/

/-- **Reading inverts writing.** What is written for a description, a buffer, a trace or a frame is
read back as the same, if all numbers of single precision in it are finite and are ones for which
the decimal that is written reads back. -/
theorem ofText_text_toJson :
    (∀ d : Description, (∀ x ∈ d.singles, x.isFinite) →
        (∀ x ∈ d.singles, x.isFinite → ReadsBack x) → Description.ofText d.toJson.text = .ok d) ∧
      (∀ b : Curve.Buffer, (∀ x ∈ b.singles, x.isFinite) →
        (∀ x ∈ b.singles, x.isFinite → ReadsBack x) →
          Reader.ofText Curve.Buffer.record.read b.toJson.text = .ok b) ∧
      (∀ t : Curve.Trace, (∀ x ∈ t.singles, x.isFinite) →
        (∀ x ∈ t.singles, x.isFinite → ReadsBack x) →
          Reader.ofText Curve.Trace.record.read t.toJson.text = .ok t) ∧
      ∀ f : Turtle.Frame, (∀ x ∈ f.singles, x.isFinite) →
        (∀ x ∈ f.singles, x.isFinite → ReadsBack x) →
          Reader.ofText Turtle.Frame.record.read f.toJson.text = .ok f := by
  -- Each type has its own writer, and one argument reads back whatever was written.
  refine ⟨fun d hfinite hback => ?_, fun b hfinite hback => ?_, fun t hfinite hback => ?_,
    fun f hfinite hback => ?_⟩
  · have hwritten := Description.writes_toJson fun x hx => hback x hx (hfinite x hx)
    exact Description.reads_read.takes.ofText_text hwritten
  · have hwritten := Curve.Buffer.writes_toJson fun x hx => hback x hx (hfinite x hx)
    exact Curve.Buffer.takes_read.ofText_text hwritten
  · have hwritten := Curve.Trace.writes_toJson fun x hx => hback x hx (hfinite x hx)
    exact Curve.Trace.takes_read.ofText_text hwritten
  · have hwritten := Turtle.Frame.writes_toJson fun x hx => hback x hx (hfinite x hx)
    exact Turtle.Frame.takes_read.ofText_text hwritten

/-- A description with both forms of token lists, a name that needs escapes, and turns. -/
def braid : Description where
  start := .tokens ["Strand\n", "F"]
  rules := [⟨"Strand\n", .text "F[+\"F]", 3⟩, ⟨"F", .tokens ["F", "\\"], 1⟩]
  bindings := .ofList [("Strand\n", .roll (-0.5)), ("+", .yaw 1.5), ("F", .forward)]
  generations := 4294967295
  seed := 18446744073709551615
  turtle := { step := 0.1, lengthFactor := 1e-7 }

/-- One curve of two points. -/
def splinter : Curve.Buffer := ⟨#[2], #[0, 0.1, -0.0, 1, 2, 3], #[0, 0, 1, 0, 0, 1], 0.15⟩

/-- A strand of one point. -/
def stub : Curve.Trace := .ofList [.point ⟨⟨0.1, 0.2, 0.3⟩, .unitZ⟩, .break]

/-- A frame away from the origin. -/
def tilted : Turtle.Frame := ⟨⟨0.1, -2.5, 1e20⟩, ⟨0, 0.70710677, 0, 0.70710677⟩, 0.9⟩

theorem ofText_text_toJson_braid :
    Description.ofText braid.toJson.text = .ok braid ∧
      Reader.ofText Curve.Buffer.record.read splinter.toJson.text = .ok splinter ∧
      Reader.ofText Curve.Trace.record.read stub.toJson.text = .ok stub ∧
      Reader.ofText Turtle.Frame.record.read tilted.toJson.text = .ok tilted := by
  obtain ⟨hdescription, hbuffer, htrace, hframe⟩ := ofText_text_toJson
  refine ⟨hdescription braid ?_ ?_, hbuffer splinter ?_ ?_, htrace stub ?_ ?_,
    hframe tilted ?_ ?_⟩
  all_goals decide +kernel

end LSystem
