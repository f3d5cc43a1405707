import LSystem.Proofs.Json.Reading
import Mathlib.Data.List.Nodup
import Mathlib.Data.List.Pairwise

/-!
# Records

A record is read part by part, from an object in the order of the text or from a list in the order
of the parts, each part being put into a record that starts as a blank one. For what comes out the
order is immaterial: a part that is given is what was read for it, and one that is not given is its
default (`Covers`).

The argument needs of a record only that its parts are independent of one another and make up all
of it (`Anatomy`). The induction over what is given is about a list of parts with trees
(`readParts_eq_ok_iff`), and both forms of a record come down to such a list: in an object the
names choose the parts, and every name is known and new, in a list the places do. So the form of a
record is one for both (`Value.IsRecord`).

A record that passes over unknown members is read from more than this form, but what has the form
is read all the same (`Anatomy.takes_read`). For one that is strict the form is all that is read
(`Anatomy.reads_read`).
-/

namespace LSystem.Json

variable {σ α X : Type}

/-! ### Parts -/

/-- A part of a record: how its data are read, the form that they are read from, and where they
are kept. -/
structure Part (σ : Type) where
  name : String
  Data : Type
  /-- What the part is when it is not given, unless it has to be given. -/
  default? : Option Data
  read : Reader Data
  Form : Value → Data → Prop
  get : σ → Data
  set : Data → σ → σ

namespace Part

/-- The field of a part. -/
def field (p : Part σ) : FieldSpec σ :=
  ⟨p.name, p.default?.isNone, fun t s => (p.read t).map (p.set · s)⟩

/-- A part that has to be given. -/
def mandatory (name : String) (read : Reader α) (Form : Value → α → Prop) (get : σ → α)
    (set : α → σ → σ) : Part σ :=
  ⟨name, α, none, read, Form, get, set⟩

/-- A part with a default. -/
def optional (name : String) (default : α) (read : Reader α) (Form : Value → α → Prop)
    (get : σ → α) (set : α → σ → σ) : Part σ :=
  ⟨name, α, some default, read, Form, get, set⟩

/-- Parts that do not get in each other's way. -/
def Independent (p q : Part σ) : Prop :=
  (∀ a s, q.get (p.set a s) = q.get s) ∧ ∀ a s, p.get (q.set a s) = p.get s

instance : Std.Symm (@Independent σ) := ⟨fun _ _ h => ⟨h.2, h.1⟩⟩

/-- What is given for a part, or else its default, is in the record. -/
def IsGiven (p : Part σ) (given : List (String × Value)) (s : σ) : Prop :=
  match given.lookup p.name with
  | some v => p.Form v (p.get s)
  | none => p.default? = some (p.get s)

end Part

/-- **The parts of a record:** they differ in their names, each of them can be changed on its own,
together they are the whole record, and the blank record has their defaults. -/
structure Anatomy (parts : List (Part σ)) (blank : σ) : Prop where
  names : (parts.map Part.name).Nodup
  get_set : ∀ p ∈ parts, ∀ a s, p.get (p.set a s) = a
  independent : parts.Pairwise Part.Independent
  ext : ∀ s s', (∀ p ∈ parts, p.get s = p.get s') → s = s'
  blank : ∀ p ∈ parts, ∀ a ∈ p.default?, p.get blank = a

/-! ### Forms -/

/-- A value assigns values to some of the names: an object by its keys, no key coming twice, and
a list by the places. -/
inductive Value.Gives (names : List String) : Value → List (String × Value) → Prop
  | object {members : List (String × Value)} (known : ∀ m ∈ members, m.1 ∈ names)
      (nodup : (members.map Prod.fst).Nodup) : Gives names (.object members) members
  | list {items : List Value} (h : items.length ≤ names.length) :
      Gives names (.list items) (names.zip items)

/-- **The form of a record.** -/
def Value.IsRecord (parts : List (Part σ)) (v : Value) (s : σ) : Prop :=
  ∃ given, v.Gives (parts.map Part.name) given ∧ ∀ p ∈ parts, p.IsGiven given s

/-- What is given for a name has a form. -/
def IsGivenFor (name : String) (Form : Value → α → Prop) (given : List (String × Value))
    (a : α) : Prop :=
  ∃ v, given.lookup name = some v ∧ Form v a

/-- What is given for a name has a form, and if nothing is given there is a default. -/
def IsGivenOr (name : String) (default : α) (Form : Value → α → Prop)
    (given : List (String × Value)) (a : α) : Prop :=
  IsGivenFor name Form given a ∨ given.lookup name = none ∧ a = default

theorem Part.isGiven_mandatory {name : String} {read : Reader α} {Form : Value → α → Prop}
    {get : σ → α} {set : α → σ → σ} {given : List (String × Value)} {s : σ} :
    (mandatory name read Form get set).IsGiven given s ↔ IsGivenFor name Form given (get s) := by
  unfold IsGiven IsGivenFor
  cases h : given.lookup name <;> simp [mandatory, h]

theorem Part.isGiven_optional {name : String} {default : α} {read : Reader α}
    {Form : Value → α → Prop} {get : σ → α} {set : α → σ → σ} {given : List (String × Value)}
    {s : σ} : (optional name default read Form get set).IsGiven given s ↔
      IsGivenOr name default Form given (get s) := by
  unfold IsGiven IsGivenOr IsGivenFor
  cases h : given.lookup name <;> simp [optional, h, eq_comm]

/-! ### One part after the other -/

/-- The names of the parts that are given. -/
def namesOf (given : List (Part σ × X)) : List String := given.map fun g => g.1.name

/-- Reads parts into a record. -/
def readParts (given : List (Part σ × Tree)) (s : σ) : Except Fault σ :=
  given.foldlM (fun s g => g.1.field.read g.2 s) s

/-- **A record that is read off what is given:** the parts that are given are read from it, and
the others have their defaults. -/
structure Covers (parts : List (Part σ)) (given : List (Part σ × Tree)) (s : σ) : Prop where
  read : ∀ g ∈ given, g.1.read g.2 = .ok (g.1.get s)
  default : ∀ p ∈ parts, p.name ∉ namesOf given → p.default? = some (p.get s)

section Parts

variable {parts : List (Part σ)} {blank s₀ s : σ} {given : List (Part σ × Tree)}

theorem Anatomy.eq_of_name_eq (A : Anatomy parts blank) {p q : Part σ} (hp : p ∈ parts)
    (hq : q ∈ parts) (h : p.name = q.name) : p = q :=
  List.inj_on_of_nodup_map A.names hp hq h

theorem Anatomy.get_set_of_ne (A : Anatomy parts blank) {p q : Part σ} (hp : p ∈ parts)
    (hq : q ∈ parts) (h : q.name ≠ p.name) (a : p.Data) (s : σ) :
    q.get (p.set a s) = q.get s := by
  have hne : p ≠ q := fun heq => h (heq ▸ rfl)
  exact (A.independent.forall hp hq hne).1 a s

/-- **Parts are read independently of their order.** -/
theorem Anatomy.readParts_eq_ok_iff (A : Anatomy parts blank) (hmem : ∀ g ∈ given, g.1 ∈ parts)
    (hnodup : (namesOf given).Nodup) : readParts given s₀ = .ok s ↔
      (∀ g ∈ given, g.1.read g.2 = .ok (g.1.get s)) ∧
        ∀ p ∈ parts, p.name ∉ namesOf given → p.get s = p.get s₀ := by
  -- Every part that is read leaves another record to start from.
  induction given generalizing s₀ with
  | nil =>
    change (pure s₀ : Except Fault σ) = .ok s ↔ _
    rw [pure_eq_ok_iff]
    constructor
    · rintro rfl
      exact ⟨List.forall_mem_nil _, fun p _ _ => rfl⟩
    · rintro ⟨-, hrest⟩
      exact A.ext _ _ fun p hp => (hrest p hp List.not_mem_nil).symm
  | cons g given ih =>
    obtain ⟨p, t⟩ := g
    obtain ⟨hp, hmem⟩ := List.forall_mem_cons.1 hmem
    obtain ⟨hnew, hnodup⟩ := List.nodup_cons.1 hnodup
    have hstep : readParts ((p, t) :: given) s₀ = .ok s ↔
        ∃ a, p.read t = .ok a ∧ readParts given (p.set a s₀) = .ok s := by
      change (p.read t).map (p.set · s₀) >>= readParts given = .ok s ↔ _
      simp only [bind_eq_ok_iff, map_eq_ok_iff]
      constructor
      · rintro ⟨_, ⟨a, ha, rfl⟩, hrest⟩
        exact ⟨a, ha, hrest⟩
      · rintro ⟨a, ha, hrest⟩
        exact ⟨_, ⟨a, ha, rfl⟩, hrest⟩
    rw [hstep]
    constructor
    · rintro ⟨a, ha, hrest⟩
      obtain ⟨hread, hkept⟩ := (ih hmem hnodup).1 hrest
      -- Nothing that is read later changes the part.
      have hget : p.get s = a := by rw [hkept p hp hnew, A.get_set p hp]
      refine ⟨List.forall_mem_cons.2 ⟨by rw [ha, hget], hread⟩, fun q hq hnot => ?_⟩
      have hne : q.name ≠ p.name := List.ne_of_not_mem_cons hnot
      rw [hkept q hq (List.not_mem_of_not_mem_cons hnot), A.get_set_of_ne hp hq hne]
    · rintro ⟨hread, hkept⟩
      obtain ⟨hp', hread⟩ := List.forall_mem_cons.1 hread
      refine ⟨p.get s, hp', (ih hmem hnodup).2 ⟨hread, fun q hq hnot => ?_⟩⟩
      by_cases hname : q.name = p.name
      · cases A.eq_of_name_eq hq hp hname
        rw [A.get_set p hp]
      · rw [A.get_set_of_ne hp hq hname]
        exact hkept q hq fun h => (List.mem_cons.1 h).elim hname hnot

/-- A blank record is filled if nothing is missing that has to be given. -/
theorem Anatomy.readParts_blank_iff (A : Anatomy parts blank) (hmem : ∀ g ∈ given, g.1 ∈ parts)
    (hnodup : (namesOf given).Nodup) :
    (readParts given blank = .ok s ∧
      ∀ p ∈ parts, p.name ∉ namesOf given → p.default?.isSome) ↔ Covers parts given s := by
  rw [A.readParts_eq_ok_iff hmem hnodup]
  -- A part that is not given keeps the blank, and the blank holds the default of every part that
  -- has one.
  constructor
  · rintro ⟨⟨hread, hkept⟩, hsome⟩
    refine ⟨hread, fun p hp hnot => ?_⟩
    obtain ⟨a, ha⟩ := Option.isSome_iff_exists.1 (hsome p hp hnot)
    rw [hkept p hp hnot, A.blank p hp a ha, ha]
  · rintro ⟨hread, hdefault⟩
    refine ⟨⟨hread, fun p hp hnot => ?_⟩, fun p hp hnot => ?_⟩
    · exact (A.blank p hp _ (hdefault p hp hnot)).symm
    · rw [hdefault p hp hnot]
      rfl

end Parts

/-! ### Values for parts -/

section Values

variable {parts : List (Part σ)} {blank s : σ} {given : List (Part σ × Tree)}
  {values : List (String × Value)}

/-- A tree for a part and a value for its name, which the tree is. -/
def IsFor (g : Part σ × Tree) (m : String × Value) : Prop :=
  g.1.name = m.1 ∧ g.2.value? = some m.2

theorem namesOf_eq_of_isFor (h : List.Forall₂ IsFor given values) :
    namesOf given = values.map Prod.fst :=
  map_eq_map_iff_forall₂.2 (h.imp fun _ _ hg => hg.1)

private theorem rightUnique_isFor : Relator.RightUnique (@IsFor σ) := by
  rintro g m m' ⟨hname, hv⟩ ⟨hname', hv'⟩
  exact Prod.ext (hname.symm.trans hname') (Option.some.inj (hv.symm.trans hv'))

theorem covers_of_isGiven (htakes : ∀ p ∈ parts, p.read.Takes p.Form)
    (hmem : ∀ g ∈ given, g.1 ∈ parts) (hvalues : List.Forall₂ IsFor given values)
    (hnodup : (values.map Prod.fst).Nodup) (h : ∀ p ∈ parts, p.IsGiven values s) :
    Covers parts given s := by
  -- The names are distinct, so looking a name up finds the member that was read for it.
  constructor
  · intro g hg
    obtain ⟨m, hm, hname, hv⟩ := exists_mem_right_of_forall₂ hvalues hg
    have hlookup : values.lookup g.1.name = some m.2 :=
      (lookup_eq_some_iff_mem hnodup).2 (hname ▸ hm)
    have hform := h g.1 (hmem g hg)
    rw [Part.IsGiven, hlookup] at hform
    exact htakes g.1 (hmem g hg) g.2 m.2 _ hv hform
  · intro p hp hnot
    have hlookup : values.lookup p.name = none := by
      rw [List.lookup_eq_none_iff]
      intro m hm
      rw [namesOf_eq_of_isFor hvalues] at hnot
      have hne : p.name ≠ m.1 := fun heq => hnot (heq ▸ List.mem_map_of_mem hm)
      simpa using hne
    have hdefault := h p hp
    rwa [Part.IsGiven, hlookup] at hdefault

theorem Anatomy.exists_isGiven (A : Anatomy parts blank)
    (hreads : ∀ p ∈ parts, p.read.Reads p.Form) (hmem : ∀ g ∈ given, g.1 ∈ parts)
    (hformed : ∀ g ∈ given, g.2.IsFormed) (h : Covers parts given s) :
    ∃ values, List.Forall₂ IsFor given values ∧ ∀ p ∈ parts, p.IsGiven values s := by
  -- What the readers took gives the values back, one for each member that was read.
  have hvalue : ∀ g ∈ given, ∃ m, IsFor g m ∧ g.1.Form m.2 (g.1.get s) := fun g hg => by
    obtain ⟨v, hv, hform⟩ := (hreads g.1 (hmem g hg)).gives g.2 _ (hformed g hg) (h.read g hg)
    exact ⟨(g.1.name, v), ⟨rfl, hv⟩, hform⟩
  obtain ⟨values, hvalues⟩ := exists_forall₂ hvalue
  refine ⟨values, hvalues.imp fun _ _ hm => hm.1, fun p hp => ?_⟩
  unfold Part.IsGiven
  cases hlookup : values.lookup p.name with
  | some v =>
    obtain ⟨g, hg, ⟨hname, -⟩, hform⟩ :=
      exists_mem_left_of_forall₂ hvalues (mem_of_lookup_eq_some hlookup)
    cases A.eq_of_name_eq (hmem g hg) hp hname
    exact hform
  | none =>
    -- A name that no member has is none of those that were read.
    refine h.default p hp fun hin => ?_
    rw [namesOf_eq_of_isFor (hvalues.imp fun _ _ hm => hm.1)] at hin
    obtain ⟨m, hm, hname⟩ := List.mem_map.1 hin
    exact absurd (List.lookup_eq_none_iff.1 hlookup m hm) (by simp [hname])

end Values

/-! ### Objects -/

section Objects

variable {r : Record σ} {parts : List (Part σ)} {blank s s' : σ} {seen seen' : List String}

/-- A member for a part. -/
def memberOf (g : Part σ × Tree) : Spelling × Tree := (.ok g.1.name, g.2)

private theorem find?_fields (hfields : r.fields = parts.map Part.field)
    (A : Anatomy parts blank) {p : Part σ} (hp : p ∈ parts) :
    r.fields.find? (·.name = p.name) = some p.field := by
  rw [hfields, List.find?_map]
  have hfind : parts.find? (fun q => decide (q.field.name = p.name)) = some p := by
    -- The search cannot stop at another part, which would have the same name.
    cases h : parts.find? (fun q => decide (q.field.name = p.name)) with
    | none =>
      have hnot := List.find?_eq_none.1 h p hp
      simp [Part.field] at hnot
    | some q =>
      have hname := List.find?_some h
      rw [decide_eq_true_iff] at hname
      rw [A.eq_of_name_eq (List.mem_of_find?_eq_some h) hp hname]
  exact congrArg (Option.map Part.field) hfind

/-- A member for a part is read into the record, unless the part has been given before. -/
private theorem readMember_memberOf (hfields : r.fields = parts.map Part.field)
    (A : Anatomy parts blank)
    {g : Part σ × Tree} (hg : g.1 ∈ parts) :
    r.readMember (s, seen) (memberOf g) = .ok (s', seen') ↔
      g.1.name ∉ seen ∧ g.1.field.read g.2 s = .ok s' ∧ seen' = g.1.name :: seen := by
  unfold Record.readMember memberOf
  simp only [bind_eq_ok_iff, Except.ok.injEq, exists_eq_left']
  rw [find?_fields hfields A hg]
  simp only [ite_throw_eq_ok_iff, bind_eq_ok_iff, pure_eq_ok_iff, List.contains_iff_mem,
    Prod.mk.injEq]
  -- A known member is refused only for its second appearance or by its own reader.
  constructor
  · rintro ⟨hnew, s₁, hs₁, rfl, rfl⟩
    exact ⟨hnew, hs₁, rfl⟩
  · rintro ⟨hnew, hs', rfl⟩
    exact ⟨hnew, s', hs', rfl, rfl⟩

/-- A strict record has a part for every member. -/
private theorem exists_memberOf (hfields : r.fields = parts.map Part.field) (hstrict : r.strict)
    {m : Spelling × Tree} (h : r.readMember (s, seen) m = .ok (s', seen')) :
    ∃ p ∈ parts, m = memberOf (p, m.2) := by
  obtain ⟨name, hname, h⟩ := bind_eq_ok_iff.1 h
  cases hfind : r.fields.find? (·.name = name) with
  | some f =>
    have hmem := List.mem_of_find?_eq_some hfind
    rw [hfields] at hmem
    obtain ⟨p, hp, rfl⟩ := List.mem_map.1 hmem
    have hpname := List.find?_some hfind
    rw [decide_eq_true_iff] at hpname
    refine ⟨p, hp, Prod.ext ?_ rfl⟩
    change m.1 = .ok p.field.name
    rw [hname, hpname]
  | none =>
    -- A strict record has thrown.
    rw [hfind] at h
    simp [hstrict, throw, throwThe, MonadExceptOf.throw, bind, Except.bind] at h

/-- **Members for parts are read like the parts,** if none of them comes twice. -/
theorem foldlM_readMember_iff (hfields : r.fields = parts.map Part.field)
    (A : Anatomy parts blank) {given : List (Part σ × Tree)} (hmem : ∀ g ∈ given, g.1 ∈ parts) :
    (given.map memberOf).foldlM r.readMember (s, seen) = .ok (s', seen') ↔
      (namesOf given).Nodup ∧ (∀ name ∈ namesOf given, name ∉ seen) ∧
        readParts given s = .ok s' ∧ seen' = (namesOf given).reverse ++ seen := by
  induction given generalizing s seen with
  | nil =>
    change (pure (s, seen) : Except Fault _) = .ok (s', seen') ↔ _ ∧ _ ∧
      (pure s : Except Fault σ) = .ok s' ∧ _
    rw [pure_eq_ok_iff, pure_eq_ok_iff, Prod.mk.injEq]
    simp [namesOf, eq_comm]
  | cons g given ih =>
    -- A name is new to those behind it if it is not among those that were seen before.
    obtain ⟨hg, hmem⟩ := List.forall_mem_cons.1 hmem
    have hnames : namesOf (g :: given) = g.1.name :: namesOf given := rfl
    have hparts : readParts (g :: given) s = g.1.field.read g.2 s >>= readParts given := rfl
    rw [List.map_cons, List.foldlM_cons, bind_eq_ok_iff, hnames, hparts, bind_eq_ok_iff]
    constructor
    · rintro ⟨⟨s₁, seen₁⟩, hfirst, hrest⟩
      obtain ⟨hnew, hs₁, rfl⟩ := (readMember_memberOf hfields A hg).1 hfirst
      obtain ⟨hnodup, hfresh, hs', rfl⟩ := (ih hmem).1 hrest
      refine ⟨List.nodup_cons.2 ⟨fun h => ?_, hnodup⟩, ?_, ⟨s₁, hs₁, hs'⟩, by simp⟩
      · exact hfresh _ h List.mem_cons_self
      · refine List.forall_mem_cons.2 ⟨hnew, fun name hname => ?_⟩
        exact fun h => hfresh name hname (List.mem_cons_of_mem _ h)
    · rintro ⟨hnodup, hfresh, ⟨s₁, hs₁, hs'⟩, rfl⟩
      obtain ⟨hfirst, hnodup⟩ := List.nodup_cons.1 hnodup
      obtain ⟨hnew, hfresh⟩ := List.forall_mem_cons.1 hfresh
      refine ⟨(s₁, g.1.name :: seen), (readMember_memberOf hfields A hg).2 ⟨hnew, hs₁, rfl⟩, ?_⟩
      refine (ih hmem).2 ⟨hnodup, fun name hname h => ?_, hs', by simp⟩
      rcases List.mem_cons.1 h with rfl | h
      · exact hfirst hname
      · exact hfresh name hname h

/-- The members of an object that a strict record takes are members for its parts. -/
private theorem exists_given (hfields : r.fields = parts.map Part.field) (hstrict : r.strict)
    {members : List (Spelling × Tree)}
    (h : members.foldlM r.readMember (s, seen) = .ok (s', seen')) :
    ∃ given : List (Part σ × Tree), members = given.map memberOf ∧ ∀ g ∈ given, g.1 ∈ parts := by
  induction members generalizing s seen with
  | nil => exact ⟨[], rfl, List.forall_mem_nil _⟩
  | cons m members ih =>
    rw [List.foldlM_cons, bind_eq_ok_iff] at h
    obtain ⟨⟨s₁, seen₁⟩, hfirst, hrest⟩ := h
    obtain ⟨p, hp, hm⟩ := exists_memberOf hfields hstrict hfirst
    obtain ⟨given, rfl, hgiven⟩ := ih hrest
    exact ⟨(p, m.2) :: given, congrArg (· :: _) hm, List.forall_mem_cons.2 ⟨hp, hgiven⟩⟩

/-- Nothing is missing if every part that is not given has a default. -/
private theorem find?_missing_eq_none_iff (hfields : r.fields = parts.map Part.field) :
    r.fields.find? (fun f => f.required && !seen.contains f.name) = none ↔
      ∀ p ∈ parts, p.name ∉ seen → p.default?.isSome := by
  rw [hfields, List.find?_eq_none, List.forall_mem_map]
  refine forall₂_congr fun p _ => ?_
  cases h : p.default? <;> simp [Part.field, h]

theorem read_object_eq_ok_iff (hfields : r.fields = parts.map Part.field)
    (A : Anatomy parts r.blank) {given : List (Part σ × Tree)} (hmem : ∀ g ∈ given, g.1 ∈ parts)
    {ending : Ending} : r.read (.object (given.map memberOf) ending) = .ok s ↔
      (namesOf given).Nodup ∧ ending.readObject = .ok () ∧ Covers parts given s := by
  -- Reading is a pass over the members and a look at what is missing after it.
  have hread : r.read (.object (given.map memberOf) ending) = .ok s ↔ ∃ seen,
      (given.map memberOf).foldlM r.readMember (r.blank, []) = .ok (s, seen) ∧
        ending.readObject = .ok () ∧ ∀ p ∈ parts, p.name ∉ seen → p.default?.isSome := by
    unfold Record.read
    simp only [bind_eq_ok_iff]
    constructor
    · rintro ⟨⟨data, seen⟩, hfold, ⟨⟩, hending, hmissing⟩
      dsimp only at hmissing
      split at hmissing
      · cases hmissing
      · next hnone =>
        cases hmissing
        exact ⟨seen, hfold, hending, (find?_missing_eq_none_iff hfields).1 hnone⟩
    · rintro ⟨seen, hfold, hending, hmissing⟩
      refine ⟨(s, seen), hfold, (), hending, ?_⟩
      dsimp only
      rw [(find?_missing_eq_none_iff hfields).2 hmissing]
      rfl
  -- After the pass the names seen are those of the members, so nothing else can be missing.
  rw [hread]
  constructor
  · rintro ⟨seen, hfold, hending, hmissing⟩
    obtain ⟨hnodup, -, hparts, rfl⟩ := (foldlM_readMember_iff hfields A hmem).1 hfold
    refine ⟨hnodup, hending, (A.readParts_blank_iff hmem hnodup).1 ⟨hparts, ?_⟩⟩
    simpa using hmissing
  · rintro ⟨hnodup, hending, hcovers⟩
    obtain ⟨hparts, hmissing⟩ := (A.readParts_blank_iff hmem hnodup).2 hcovers
    have hfold := (foldlM_readMember_iff hfields A hmem).2
      ⟨hnodup, fun name _ => List.not_mem_nil, hparts, rfl⟩
    refine ⟨_, hfold, hending, ?_⟩
    simpa using hmissing

end Objects

/-! ### Lists -/

section Lists

variable {parts : List (Part σ)} {blank s : σ} {items : List Tree} {ending : Ending}

private theorem readList_eq_ok_iff_endList :
    ending.readList = .ok () ↔ ending.endList = .ok () := by
  cases ending <;> simp [Ending.readList, Ending.endList]

/-- A part that has no item takes its default, and the parts behind it have none either. -/
private theorem readPositions_nil_eq_ok_iff {p : Part σ} {wanted : String} {index : Nat} {s₀ : σ} :
    readPositions wanted ending index ((p :: parts).map Part.field) [] s₀ = .ok s ↔
      ending.readList = .ok () ∧ p.default?.isSome ∧
        readPositions wanted ending index (parts.map Part.field) [] s₀ = .ok s := by
  rw [List.map_cons, readPositions]
  have hrequired : ¬ p.field.required ↔ p.default?.isSome := by
    cases h : p.default? <;> simp [Part.field, h]
  simp only [bind_eq_ok_iff, ite_throw_eq_ok_iff, hrequired]
  -- The end of the list is noticed at the first of these parts.
  constructor
  · rintro ⟨⟨⟩, hending, hdefault, hrest⟩
    exact ⟨hending, hdefault, hrest⟩
  · rintro ⟨hending, hdefault, hrest⟩
    exact ⟨(), hending, hdefault, hrest⟩

/-- The items of a list are read like the parts in their places. -/
private theorem readPositions_eq_ok_iff {wanted : String} {index : Nat} {s₀ : σ} :
    readPositions wanted ending index (parts.map Part.field) items s₀ = .ok s ↔
      items.length ≤ parts.length ∧ readParts (parts.zip items) s₀ = .ok s ∧
        (∀ p ∈ parts.drop items.length, p.default?.isSome) ∧ ending.endList = .ok () := by
  induction parts generalizing items index s₀ with
  | nil =>
    cases items with
    | nil =>
      change ending.endList.map (fun _ => s₀) = .ok s ↔ _ ∧ (pure s₀ : Except Fault σ) = .ok s ∧ _
      rw [map_eq_ok_iff, pure_eq_ok_iff]
      constructor
      · rintro ⟨⟨⟩, hending, rfl⟩
        exact ⟨Nat.le_refl _, rfl, List.forall_mem_nil _, hending⟩
      · rintro ⟨-, rfl, -, hending⟩
        exact ⟨(), hending, rfl⟩
    | cons t items =>
      change Except.error _ = Except.ok s ↔ _
      simp
  | cons p parts ih =>
    cases items with
    | nil =>
      rw [readPositions_nil_eq_ok_iff, ih, readList_eq_ok_iff_endList]
      constructor
      · rintro ⟨-, hdefault, -, hs, hrest, hending⟩
        refine ⟨Nat.zero_le _, ?_, List.forall_mem_cons.2 ⟨hdefault, hrest⟩, hending⟩
        rwa [List.zip_nil_right] at hs ⊢
      · rintro ⟨-, hs, hrest, hending⟩
        obtain ⟨hdefault, hrest⟩ := List.forall_mem_cons.1 hrest
        refine ⟨hending, hdefault, Nat.zero_le _, ?_, hrest, hending⟩
        rwa [List.zip_nil_right] at hs ⊢
    -- The first item is for the first part, and the parts behind it are for the items behind it.
    | cons t items =>
      have hparts : readParts ((p, t) :: parts.zip items) s₀ =
        p.field.read t s₀ >>= readParts (parts.zip items) := rfl
      rw [List.map_cons, readPositions, bind_eq_ok_iff, List.zip_cons_cons, hparts, bind_eq_ok_iff]
      simp only [ih, List.length_cons, Nat.add_le_add_iff_right, List.drop_succ_cons]
      constructor
      · rintro ⟨s₁, hs₁, hle, hs, hrest⟩
        exact ⟨hle, ⟨s₁, hs₁, hs⟩, hrest⟩
      · rintro ⟨hle, ⟨s₁, hs₁, hs⟩, hrest⟩
        exact ⟨s₁, hs₁, hle, hs, hrest⟩

theorem namesOf_zip (parts : List (Part σ)) (items : List X) :
    namesOf (parts.zip items) = (parts.map Part.name).take items.length := by
  induction parts generalizing items with
  | nil => simp [namesOf]
  | cons p parts ih =>
    cases items with
    | nil => rfl
    | cons x items => exact congrArg (p.name :: ·) (ih items)

theorem Anatomy.nodup_namesOf_zip (A : Anatomy parts blank) (items : List X) :
    (namesOf (parts.zip items)).Nodup := by
  rw [namesOf_zip]
  exact A.names.sublist (List.take_sublist _ _)

/-- The parts that are not given are those behind the last item. -/
private theorem Anatomy.not_mem_namesOf_zip_iff (A : Anatomy parts blank) (items : List X)
    {p : Part σ}
    (hp : p ∈ parts) : p.name ∉ namesOf (parts.zip items) ↔ p ∈ parts.drop items.length := by
  -- The first parts are given and the others are not, and no two parts share a name.
  have hsplit : p ∈ parts.take items.length ∨ p ∈ parts.drop items.length := by
    rw [← List.mem_append, List.take_append_drop]
    exact hp
  have hdisjoint := List.disjoint_take_drop A.names (Nat.le_refl items.length)
  rw [namesOf_zip]
  constructor
  · intro hnot
    refine hsplit.resolve_left fun htake => hnot ?_
    rw [← List.map_take]
    exact List.mem_map_of_mem htake
  · intro hdrop htake
    refine hdisjoint htake ?_
    rw [← List.map_drop]
    exact List.mem_map_of_mem hdrop

theorem Anatomy.readPositions_blank_iff (A : Anatomy parts blank) {wanted : String} {index : Nat} :
    readPositions wanted ending index (parts.map Part.field) items blank = .ok s ↔
      items.length ≤ parts.length ∧ ending.endList = .ok () ∧
        Covers parts (parts.zip items) s := by
  have hmem : ∀ g ∈ parts.zip items, g.1 ∈ parts := fun g hg => (List.of_mem_zip hg).1
  -- What no item is for is what no given name is.
  have hdrop : (∀ p ∈ parts.drop items.length, p.default?.isSome) ↔
      ∀ p ∈ parts, p.name ∉ namesOf (parts.zip items) → p.default?.isSome := by
    constructor
    · intro h p hp hnot
      exact h p ((A.not_mem_namesOf_zip_iff items hp).1 hnot)
    · intro h p hdrop
      have hp := List.mem_of_mem_drop hdrop
      exact h p hp ((A.not_mem_namesOf_zip_iff items hp).2 hdrop)
  rw [readPositions_eq_ok_iff, hdrop, ← A.readParts_blank_iff hmem (A.nodup_namesOf_zip items)]
  tauto

end Lists

/-! ### Both forms -/

section Both

variable {parts : List (Part σ)} {blank : σ} {items : List Tree} {vs : List Value}

/-- Items for parts and the values of the items. -/
theorem forall₂_isFor_zip (h : List.Forall₂ (fun t v => t.value? = some v) items vs)
    (parts : List (Part σ)) :
    List.Forall₂ IsFor (parts.zip items) ((parts.map Part.name).zip vs) := by
  induction h generalizing parts with
  | nil => simp
  | cons hv _ ih =>
    cases parts with
    | nil => exact .nil
    | cons p parts => exact .cons ⟨rfl, hv⟩ (ih parts)

/-- Members that a record knows are members for parts. -/
private theorem exists_given_of_known {members : List (Spelling × Tree)}
    {given : List (String × Value)}
    (h : List.Forall₂ IsMember members given) (hknown : ∀ m ∈ given, m.1 ∈ parts.map Part.name) :
    ∃ trees : List (Part σ × Tree), members = trees.map memberOf ∧ (∀ g ∈ trees, g.1 ∈ parts) ∧
      List.Forall₂ IsFor trees given := by
  induction h with
  | nil => exact ⟨[], rfl, List.forall_mem_nil _, .nil⟩
  | @cons m g members given hm _ ih =>
    obtain ⟨hfirst, hknown⟩ := List.forall_mem_cons.1 hknown
    obtain ⟨p, hp, hname⟩ := List.mem_map.1 hfirst
    obtain ⟨trees, rfl, htrees, hfor⟩ := ih hknown
    refine ⟨(p, m.2) :: trees, congrArg (· :: _) (Prod.ext ?_ rfl),
      List.forall_mem_cons.2 ⟨hp, htrees⟩, .cons ⟨hname, hm.2⟩ hfor⟩
    -- A member names a part of the record, so it was spelled as that name.
    change m.1 = .ok p.name
    rw [hm.1, hname]

/-- A list of parts takes their values in their order. -/
private theorem Anatomy.readPositions_of_isGiven (A : Anatomy parts blank)
    (htakes : ∀ p ∈ parts, p.read.Takes p.Form)
    (hitems : List.Forall₂ (fun t v => t.value? = some v) items vs)
    (hle : vs.length ≤ parts.length) {s : σ}
    (h : ∀ p ∈ parts, p.IsGiven ((parts.map Part.name).zip vs) s) (wanted : String) :
    readPositions wanted .closed 0 (parts.map Part.field) items blank = .ok s := by
  refine A.readPositions_blank_iff.2 ⟨hitems.length_eq ▸ hle, rfl, ?_⟩
  have hmem : ∀ g ∈ parts.zip items, g.1 ∈ parts := fun g hg => (List.of_mem_zip hg).1
  have hfor := forall₂_isFor_zip hitems parts
  have hnodup := A.nodup_namesOf_zip items
  rw [namesOf_eq_of_isFor hfor] at hnodup
  exact covers_of_isGiven htakes hmem hfor hnodup h

variable {r : Record σ}

/-- **A record takes the values of its form.** -/
theorem Anatomy.takes_read (A : Anatomy parts r.blank) (hfields : r.fields = parts.map Part.field)
    (htakes : ∀ p ∈ parts, p.read.Takes p.Form) :
    Reader.Takes r.read (Value.IsRecord parts) := by
  rintro t v s hv ⟨given, hgives, hgiven⟩
  -- Both ways to write a record give the same parts, by name or by place.
  cases hgives with
  | object known nodup =>
    cases Tree.value?_eq_some_iff.1 hv with
    | object hmembers =>
      obtain ⟨trees, rfl, hmem, hfor⟩ := exists_given_of_known hmembers known
      refine (read_object_eq_ok_iff hfields A hmem).2 ⟨?_, rfl, ?_⟩
      · rwa [namesOf_eq_of_isFor hfor]
      · exact covers_of_isGiven htakes hmem hfor nodup hgiven
  | list hle =>
    cases Tree.value?_eq_some_iff.1 hv with
    | list hitems =>
      rw [List.length_map] at hle
      have hread := A.readPositions_of_isGiven htakes hitems hle hgiven r.asList
      rwa [← hfields] at hread

/-- An object that a strict record takes has the form. -/
private theorem Anatomy.isRecord_of_read_object (A : Anatomy parts r.blank)
    (hfields : r.fields = parts.map Part.field) (hstrict : r.strict)
    (hreads : ∀ p ∈ parts, p.read.Reads p.Form) {members : List (Spelling × Tree)}
    {ending : Ending} {s : σ} (ht : (Tree.object members ending).IsFormed)
    (hs : r.read (.object members ending) = .ok s) :
    ∃ v, (Tree.object members ending).value? = some v ∧ v.IsRecord parts s := by
  -- Since the record is strict, the members are trees for its parts.
  obtain ⟨⟨_, seen⟩, hfold, -⟩ := bind_eq_ok_iff.1 hs
  obtain ⟨trees, rfl, hmem⟩ := exists_given hfields hstrict hfold
  obtain ⟨hnodup, hending, hcovers⟩ := (read_object_eq_ok_iff hfields A hmem).1 hs
  obtain ⟨values, hfor, hgiven⟩ := A.exists_isGiven hreads hmem
    (fun g hg => ht.isFormed_of_mem_object (List.mem_map_of_mem hg)) hcovers
  have hmembers : List.Forall₂ IsMember (trees.map memberOf) values :=
    List.forall₂_map_left_iff.2 (hfor.imp fun g m hg => ⟨congrArg Except.ok hg.1, hg.2⟩)
  have hclosed := ht.ending_of_object hmembers (Ending.not_stopsObject_of_readObject hending)
  subst hclosed
  refine ⟨.object values, Tree.value?_eq_some_iff.2 (.object hmembers), values, ?_, hgiven⟩
  have hnames := namesOf_eq_of_isFor hfor
  refine .object (fun m hm => ?_) (hnames ▸ hnodup)
  obtain ⟨g, hg, hname, -⟩ := exists_mem_left_of_forall₂ hfor hm
  exact List.mem_map.2 ⟨g.1, hmem g hg, hname⟩

/-- A list that a record takes has the form. -/
private theorem Anatomy.isRecord_of_read_list (A : Anatomy parts r.blank)
    (hfields : r.fields = parts.map Part.field) (hreads : ∀ p ∈ parts, p.read.Reads p.Form)
    {ending : Ending} {s : σ} (ht : (Tree.list items ending).IsFormed)
    (hs : r.read (.list items ending) = .ok s) :
    ∃ v, (Tree.list items ending).value? = some v ∧ v.IsRecord parts s := by
  have hs : readPositions r.asList ending 0 r.fields items r.blank = .ok s := hs
  rw [hfields, A.readPositions_blank_iff] at hs
  obtain ⟨hle, hending, hcovers⟩ := hs
  have hmem : ∀ g ∈ parts.zip items, g.1 ∈ parts := fun g hg => (List.of_mem_zip hg).1
  obtain ⟨values, hfor, hgiven⟩ := A.exists_isGiven hreads hmem
    (fun g hg => ht.isFormed_of_mem_list (List.of_mem_zip hg).2) hcovers
  have hitems : List.Forall₂ (fun t v => t.value? = some v) items (values.map Prod.snd) := by
    have hsnd : (parts.zip items).map Prod.snd = items := List.map_snd_zip hle
    rw [← hsnd, List.forall₂_map_left_iff, List.forall₂_map_right_iff]
    exact hfor.imp fun _ _ hm => hm.2
  -- The names of the values say no more than their places.
  have hvalues : values = (parts.map Part.name).zip (values.map Prod.snd) :=
    List.right_unique_forall₂' rightUnique_isFor hfor (forall₂_isFor_zip hitems parts)
  have hclosed := ht.ending_of_list hitems (Ending.not_stopsList_of_endList hending)
  subst hclosed
  rw [hvalues] at hgiven
  refine ⟨_, Tree.value?_eq_some_iff.2 (.list hitems), _, .list ?_, hgiven⟩
  rwa [← hitems.length_eq, List.length_map]

/-- **A strict record takes nothing else.** -/
theorem Anatomy.reads_read (A : Anatomy parts r.blank) (hfields : r.fields = parts.map Part.field)
    (hstrict : r.strict) (hreads : ∀ p ∈ parts, p.read.Reads p.Form) :
    Reader.Reads r.read (Value.IsRecord parts) where
  takes := A.takes_read hfields fun p hp => (hreads p hp).takes
  gives t s ht hs := by
    cases t with
    | object members ending => exact A.isRecord_of_read_object hfields hstrict hreads ht hs
    | list items ending => exact A.isRecord_of_read_list hfields hreads ht hs
    | _ => cases hs

end Both

end LSystem.Json
