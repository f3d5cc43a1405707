import LSystem.Proofs.Json.Trees
import LSystem.Proofs.Outcome
import LSystem.Proofs.Pairs

/-!
# What readers take

A reader walks a tree and reports the first fault that it meets. What it takes has nothing to do
with that order: it takes the trees whose values have a certain form, and the value decides what it
makes of them. `Reader.Reads` says so for a reader and the form that it reads, as an equivalence
over all formed trees; in particular nothing is read off a faulty tree.

The forms of plain data are `Value.IsNatural` and `Value.IsSingle`; a list has the form of its
items entry by entry. With an equivalence for a reader of trees comes one for the texts that it
reads (`Reader.Reads.ofText_eq_ok_iff_exists`).

`Reader.Takes` is the half of this that needs no formed tree. It is all there is to say of readers
that pass over what they do not know, since that has no value of its own.
-/

namespace LSystem.Json

open LSystem.Decimal

variable {α β : Type}

/-- A reader that takes the values of a form. -/
def Reader.Takes (read : Reader α) (Form : Value → α → Prop) : Prop :=
  ∀ t v a, t.value? = some v → Form v a → read t = .ok a

/-- **A reader of a form:** it takes the values of the form and nothing else. -/
structure Reader.Reads (read : Reader α) (Form : Value → α → Prop) : Prop where
  takes : read.Takes Form
  gives : ∀ t a, t.IsFormed → read t = .ok a → ∃ v, t.value? = some v ∧ Form v a

namespace Reader

variable {read : Reader α} {Form : Value → α → Prop}

/-- A reader of a form reads every equivalent form. -/
theorem Reads.congr {Form' : Value → α → Prop} (h : read.Reads Form)
    (hForm : ∀ v a, Form v a ↔ Form' v a) : read.Reads Form' where
  takes t v a hv ha := h.takes t v a hv ((hForm v a).2 ha)
  gives t a ht ha := by
    obtain ⟨v, hv, hform⟩ := h.gives t a ht ha
    exact ⟨v, hv, (hForm v a).1 hform⟩

/-- What is made of data that have been read. -/
theorem Takes.map (h : read.Takes Form) (f : α → β) :
    Reader.Takes (fun t => (read t).map f) fun v b => ∃ a, Form v a ∧ f a = b := by
  rintro t v b hv ⟨a, ha, hb⟩
  exact map_eq_ok_iff.2 ⟨a, h t v a hv ha, hb⟩

theorem Reads.map (h : read.Reads Form) (f : α → β) :
    Reader.Reads (fun t => (read t).map f) fun v b => ∃ a, Form v a ∧ f a = b where
  takes := h.takes.map f
  gives t b ht hb := by
    obtain ⟨a, ha, hab⟩ := map_eq_ok_iff.1 hb
    obtain ⟨v, hv, hform⟩ := h.gives t a ht ha
    exact ⟨v, hv, a, hform, hab⟩

end Reader

/-! ### Plain data -/

/-- The value of a text. -/
def Value.IsText (v : Value) (s : String) : Prop := v = .string s

/-- **The value of a natural number:** digits without a sign, a point or a power of ten. -/
def Value.IsNatural (v : Value) (k : Nat) : Prop :=
  ∃ ds, v = .number ⟨false, ds, [], none⟩ ∧ value ds = k

/-- **The value of a number of single precision:** any number that a double can hold. -/
def Value.IsSingle (v : Value) (x : Float32) : Prop :=
  ∃ n y, v = .number n ∧ Number.ofNumeral n = .ok y ∧ y.toSingle = x

theorem reads_readString : Reader.Reads readString Value.IsText where
  takes := by
    rintro t v s hv rfl
    cases Tree.value?_eq_some_iff.1 hv
    rfl
  gives t s _ h := by
    cases t with
    | string spelling =>
      have hs : spelling = .ok s := h
      subst hs
      exact ⟨.string s, rfl, rfl⟩
    | _ => cases h

theorem reads_readNull : Reader.Reads readNull fun v _ => v = .null where
  takes := by
    rintro t v _ hv rfl
    cases Tree.value?_eq_some_iff.1 hv
    rfl
  gives t _ _ h := by
    cases t with
    | null => exact ⟨.null, rfl, rfl⟩
    | _ => cases h

theorem reads_readSingle : Reader.Reads readSingle Value.IsSingle where
  takes := by
    rintro t v x hv ⟨n, y, rfl, hn, rfl⟩
    cases Tree.value?_eq_some_iff.1 hv
    exact map_eq_ok_iff.2 ⟨y, hn, rfl⟩
  gives t x _ h := by
    cases t with
    | number n =>
      obtain ⟨y, hn, hx⟩ := map_eq_ok_iff.1 h
      exact ⟨.number n, rfl, n, y, rfl, hn, hx⟩
    | _ => cases h

theorem toNat_toUInt64_of_le {k : Nat} (h : k ≤ Number.maxNatural) : k.toUInt64.toNat = k := by
  apply UInt64.toNat_ofNat_of_lt'
  unfold Number.maxNatural at h
  exact Nat.lt_succ_of_le h

/-- Digits without a sign stand for the number that they write, if it is not too large. -/
private theorem ofNumeral_of_value_le {ds : List Digit} (h : value ds ≤ Number.maxNatural) :
    Number.ofNumeral ⟨false, ds, [], none⟩ = .ok (.natural (value ds).toUInt64) := by
  have hinteger : Number.integer? ⟨false, ds, [], none⟩ = some (.natural (value ds).toUInt64) := by
    unfold Number.integer?
    simp [Numeral.isIntegral, valueUpTo?_eq, h]
  rw [Number.ofNumeral, hinteger]

/-- A numeral stands for a natural number only if it has nothing but digits. -/
private theorem exists_of_ofNumeral_eq_natural {n : Numeral} {k : UInt64}
    (h : Number.ofNumeral n = .ok (.natural k)) :
    ∃ ds, n = ⟨false, ds, [], none⟩ ∧ value ds = k.toNat := by
  obtain ⟨negative, whole, fraction, exponent⟩ := n
  unfold Number.ofNumeral at h
  split at h
  · next i hi =>
    cases h
    unfold Number.integer? at hi
    split at hi
    · cases hi
    · next hintegral =>
      split at hi
      · -- A sign makes the number a negative one.
        split at hi <;> cases hi
      · next hnegative =>
        rw [valueUpTo?_eq] at hi
        split at hi
        · next hle =>
          cases hi
          have hnat := toNat_toUInt64_of_le hle
          simp only [Numeral.isIntegral, Bool.not_eq_true', Bool.not_eq_false, Bool.and_eq_true,
            List.isEmpty_iff, Option.isNone_iff_eq_none] at hintegral
          -- Neither a fraction nor an exponent, and no sign: nothing but the digits is left.
          obtain ⟨rfl, rfl⟩ := hintegral
          rw [Bool.not_eq_true] at hnegative
          subst hnegative
          exact ⟨whole, rfl, hnat.symm⟩
        · cases hi
  · -- Everything else stands for a double.
    obtain ⟨x, -, hx⟩ := bind_eq_ok_iff.1 h
    cases hx

theorem reads_readNatural {max : Nat} (hmax : max ≤ Number.maxNatural) (wanted : String) :
    Reader.Reads (readNatural max wanted) fun v k => v.IsNatural k ∧ k ≤ max where
  takes := by
    rintro t v k hv ⟨⟨ds, rfl, rfl⟩, hk⟩
    cases Tree.value?_eq_some_iff.1 hv
    -- The bound fits the type that holds the number, so the conversion there and back loses
    -- nothing.
    have hnat := toNat_toUInt64_of_le (Nat.le_trans hk hmax)
    refine bind_eq_ok_iff.2 ⟨_, ofNumeral_of_value_le (Nat.le_trans hk hmax), ?_⟩
    change (if (value ds).toUInt64.toNat ≤ max then _ else _) = Except.ok (value ds)
    rw [hnat, if_pos hk]
    rfl
  gives t k _ h := by
    cases t with
    | number n =>
      obtain ⟨x, hx, hmatch⟩ := bind_eq_ok_iff.1 h
      cases x with
      | natural u =>
        obtain ⟨ds, rfl, hds⟩ := exists_of_ofNumeral_eq_natural hx
        dsimp only at hmatch
        split at hmatch
        · next hle =>
          cases hmatch
          exact ⟨_, rfl, ⟨ds, rfl, hds⟩, hle⟩
        · cases hmatch
      | negative i => cases hmatch
      | double y => cases hmatch
    | _ => cases h

theorem reads_readUInt32 : Reader.Reads readUInt32 fun v k => v.IsNatural k.toNat := by
  refine ((reads_readNatural (by decide) "u32").map UInt32.ofNat).congr fun v k => ?_
  constructor
  · rintro ⟨a, ⟨ha, hle⟩, rfl⟩
    rwa [UInt32.toNat_ofNat_of_lt' (Nat.lt_succ_of_le hle)]
  · intro h
    exact ⟨k.toNat, ⟨h, Nat.le_of_lt_succ k.toNat_lt⟩, UInt32.ofNat_toNat⟩

theorem reads_readUInt64 (wanted : String) :
    Reader.Reads (readUInt64 wanted) fun v k => v.IsNatural k.toNat := by
  refine ((reads_readNatural (Nat.le_refl _) wanted).map UInt64.ofNat).congr fun v k => ?_
  constructor
  · rintro ⟨a, ⟨ha, hle⟩, rfl⟩
    rwa [UInt64.toNat_ofNat_of_lt' (Nat.lt_succ_of_le hle)]
  · intro h
    exact ⟨k.toNat, ⟨h, Nat.le_of_lt_succ k.toNat_lt⟩, UInt64.ofNat_toNat⟩

/-! ### Lists and objects -/

namespace Tree.IsFormed

variable {items : List Tree} {members : List (Spelling × Tree)} {ending : Ending}

theorem isFormed_of_mem_list (h : (list items ending).IsFormed) {t : Tree} (ht : t ∈ items) :
    t.IsFormed := by
  -- A list is complete or cut; in a cut one only the last item may be cut itself.
  rcases h with h | h
  · cases h with
    | list h => exact .inl (h t ht)
  · cases h with
    | list h _ => exact .inl (h t ht)
    | cutList h hlast =>
      rcases List.mem_append.1 ht with ht | ht
      · exact .inl (h t ht)
      · cases List.mem_singleton.1 ht
        exact .inr hlast

theorem isFormed_of_mem_object (h : (object members ending).IsFormed) {m : Spelling × Tree}
    (hm : m ∈ members) : m.2.IsFormed := by
  -- As for lists: only the last member of a cut object may be cut itself.
  rcases h with h | h
  · cases h with
    | object h => exact .inl (h m hm)
  · cases h with
    | object h _ => exact .inl (h m hm)
    | cutObject h hlast =>
      rcases List.mem_append.1 hm with hm | hm
      · exact .inl (h m hm)
      · cases List.mem_singleton.1 hm
        exact .inr hlast

/-- A list of values is closed if nothing else stands where it should be. -/
theorem ending_of_list (h : (list items ending).IsFormed) {vs : List Value}
    (hvs : List.Forall₂ (fun t v => t.value? = some v) items vs) (hnot : ¬ ending.stopsList) :
    ending = .closed := by
  rcases h with h | h
  · cases h
    rfl
  · cases h with
    | list _ hending => exact absurd hending hnot
    | @cutList _ t _ hlast =>
      obtain ⟨v, -, hv⟩ := exists_mem_right_of_forall₂ hvs List.mem_concat_self
      rw [hlast.value?_eq_none] at hv
      cases hv

theorem ending_of_object (h : (object members ending).IsFormed) {given : List (String × Value)}
    (hgiven : List.Forall₂ IsMember members given) (hnot : ¬ ending.stopsObject) :
    ending = .closed := by
  rcases h with h | h
  · cases h
    rfl
  · cases h with
    | object _ hending => exact absurd hending hnot
    | @cutObject _ name t _ hlast =>
      obtain ⟨g, -, -, hv⟩ := exists_mem_right_of_forall₂ hgiven List.mem_concat_self
      rw [hlast.value?_eq_none] at hv
      cases hv

end Tree.IsFormed

namespace Ending

variable {ending : Ending}

theorem not_stopsList_of_readList (h : ending.readList = .ok ()) : ¬ ending.stopsList := by
  cases ending <;> simp_all [readList, stopsList]

theorem not_stopsList_of_endList (h : ending.endList = .ok ()) : ¬ ending.stopsList := by
  cases ending <;> simp_all [endList, stopsList]

theorem not_stopsObject_of_readObject (h : ending.readObject = .ok ()) : ¬ ending.stopsObject := by
  cases ending <;> simp_all [readObject, stopsObject]

end Ending

section Composite

variable {read : Reader α} {Form : Value → α → Prop}

/-- A list of values of a form. -/
def Value.IsListOf (Form : Value → α → Prop) (v : Value) (as : List α) : Prop :=
  ∃ vs, v = .list vs ∧ List.Forall₂ Form vs as

/-- An object of members with any keys and values of a form. -/
def Value.IsObjectOf (Form : Value → α → Prop) (v : Value) (pairs : List (String × α)) : Prop :=
  ∃ given, v = .object given ∧
    List.Forall₂ (fun g p => g.1 = p.1 ∧ Form g.2 p.2) given pairs

theorem takes_readList (h : read.Takes Form) :
    Reader.Takes (readList read) (Value.IsListOf Form) := by
  rintro t v as hv ⟨vs, rfl, has⟩
  cases Tree.value?_eq_some_iff.1 hv with
  | list hvs =>
    refine bind_eq_ok_iff.2 ⟨as, mapM_eq_ok_iff.2 ?_, rfl⟩
    refine (forall₂_of_common hvs has.flip).imp ?_
    rintro t a ⟨v, hv, ha⟩
    exact h t v a hv ha

theorem reads_readList (h : read.Reads Form) :
    Reader.Reads (readList read) (Value.IsListOf Form) where
  takes := takes_readList h.takes
  gives t as ht has := by
    cases t with
    | list items ending =>
      obtain ⟨data, hdata, hrest⟩ := bind_eq_ok_iff.1 has
      obtain ⟨_, hending, hrest⟩ := bind_eq_ok_iff.1 hrest
      cases hrest
      obtain ⟨vs, hvs, hform⟩ := exists_between_of_forall₂ (mapM_eq_ok_iff.1 hdata)
        fun t hmem a ha => h.gives t a (ht.isFormed_of_mem_list hmem) ha
      -- A list that was read to its end stands closed in the text.
      have hclosed := ht.ending_of_list hvs (Ending.not_stopsList_of_readList hending)
      subst hclosed
      exact ⟨.list vs, Tree.value?_eq_some_iff.2 (.list hvs), vs, rfl, hform⟩
    | _ => cases has

/-- What is made of a member. -/
theorem readMember_eq_ok_iff {m : Spelling × Tree} {p : String × α} :
    (do return (← m.1, ← read m.2) : Except Fault (String × α)) = .ok p ↔
      m.1 = .ok p.1 ∧ read m.2 = .ok p.2 := by
  simp only [bind_eq_ok_iff, pure_eq_ok_iff]
  constructor
  · rintro ⟨key, hkey, a, ha, rfl⟩
    exact ⟨hkey, ha⟩
  · rintro ⟨hkey, ha⟩
    exact ⟨p.1, hkey, p.2, ha, rfl⟩

theorem reads_readPairs (h : read.Reads Form) :
    Reader.Reads (readPairs read) (Value.IsObjectOf Form) where
  takes := by
    rintro t v pairs hv ⟨given, rfl, hpairs⟩
    cases Tree.value?_eq_some_iff.1 hv with
    | object hgiven =>
      refine bind_eq_ok_iff.2 ⟨pairs, mapM_eq_ok_iff.2 ?_, rfl⟩
      -- Members and pairs are both read off the given members, one by one and in order.
      refine (forall₂_of_common hgiven hpairs.flip).imp ?_
      rintro m p ⟨g, ⟨hkey, hv⟩, heq, ha⟩
      exact readMember_eq_ok_iff.2 ⟨heq ▸ hkey, h.takes _ _ _ hv ha⟩
  gives t pairs ht hpairs := by
    cases t with
    | object members ending =>
      obtain ⟨data, hdata, hrest⟩ := bind_eq_ok_iff.1 hpairs
      obtain ⟨_, hending, hrest⟩ := bind_eq_ok_iff.1 hrest
      cases hrest
      obtain ⟨given, hgiven, hform⟩ := exists_between_of_forall₂ (mapM_eq_ok_iff.1 hdata)
        (A := IsMember) (B := fun g p => g.1 = p.1 ∧ Form g.2 p.2) fun m hmem p hp => by
          obtain ⟨hkey, ha⟩ := readMember_eq_ok_iff.1 hp
          obtain ⟨v, hv, hform⟩ := h.gives m.2 p.2 (ht.isFormed_of_mem_object hmem) ha
          exact ⟨(p.1, v), ⟨hkey, hv⟩, rfl, hform⟩
      -- As for lists: an object that was read to its end stands closed in the text.
      have hclosed := ht.ending_of_object hgiven (Ending.not_stopsObject_of_readObject hending)
      subst hclosed
      exact ⟨.object given, Tree.value?_eq_some_iff.2 (.object hgiven), given, rfl, hform⟩
    | _ => cases hpairs

end Composite

/-! ### Alternatives -/

section Alternatives

variable {known : List (String × Alternative α)} {Form : String → Value → α → Prop}

/-- **One of several alternatives:** the name of one that its name says all about, alone or as a
key for `null`, or the name of another one as a key for the data that it carries. -/
inductive Value.IsOneOf (known : List (String × Alternative α)) (Form : String → Value → α → Prop) :
    Value → α → Prop
  | name {name : String} {a : α} (h : known.lookup name = some (.plain a)) :
      IsOneOf known Form (.string name) a
  | plain {name : String} {a : α} (h : known.lookup name = some (.plain a)) :
      IsOneOf known Form (.object [(name, .null)]) a
  | carrying {name : String} {read : Reader α} {v : Value} {a : α}
      (h : known.lookup name = some (.carrying read)) (hv : Form name v a) :
      IsOneOf known Form (.object [(name, v)]) a

theorem alternative?_eq_ok_iff {name : String} {alternative : Alternative α} :
    alternative? known name = .ok alternative ↔ known.lookup name = some alternative := by
  unfold alternative?
  cases known.lookup name <;> simp

/-- What an object of one member is read as. -/
theorem readAlternative_member {name : String} {t : Tree} {a : α} :
    readAlternative known (.object [(.ok name, t)] .closed) = .ok a ↔
      (known.lookup name = some (.plain a) ∧ readNull t = .ok ()) ∨
        ∃ read, known.lookup name = some (.carrying read) ∧ read t = .ok a := by
  unfold readAlternative
  simp only [bind_eq_ok_iff, Except.ok.injEq, exists_eq_left', alternative?_eq_ok_iff, bind_pure]
  constructor
  · -- The lookup decides which of the two is read, whatever the value says.
    rintro ⟨alternative, hlookup, ha⟩
    cases alternative with
    | plain value =>
      obtain ⟨_, hnull, rfl⟩ := map_eq_ok_iff.1 ha
      exact .inl ⟨hlookup, hnull⟩
    | carrying read => exact .inr ⟨read, hlookup, ha⟩
  · rintro (⟨hlookup, hnull⟩ | ⟨read, hlookup, ha⟩)
    · exact ⟨_, hlookup, map_eq_ok_iff.2 ⟨(), hnull, rfl⟩⟩
    · exact ⟨_, hlookup, ha⟩

theorem readAlternative_name {name : String} {a : α} :
    readAlternative known (.string (.ok name)) = .ok a ↔
      known.lookup name = some (.plain a) := by
  unfold readAlternative
  simp only [bind_eq_ok_iff, Except.ok.injEq, exists_eq_left', alternative?_eq_ok_iff]
  constructor
  · rintro ⟨alternative, hlookup, ha⟩
    cases alternative with
    | plain value =>
      cases ha
      exact hlookup
    | carrying read => cases ha
  · exact fun hlookup => ⟨_, hlookup, rfl⟩

theorem exists_member_of_value? {t : Tree} {name : String} {v : Value}
    (hv : t.value? = some (.object [(name, v)])) :
    ∃ u, t = .object [(.ok name, u)] .closed ∧ u.value? = some v := by
  cases Tree.value?_eq_some_iff.1 hv with
  | object hmembers =>
    obtain ⟨⟨_, u⟩, _, ⟨rfl, hu⟩, hrest, rfl⟩ := List.forall₂_cons_right_iff.1 hmembers
    cases hrest
    exact ⟨u, rfl, hu⟩

private theorem takes_readAlternative
    (h : ∀ name read, known.lookup name = some (.carrying read) → read.Takes (Form name)) :
    Reader.Takes (readAlternative known) (Value.IsOneOf known Form) := by
  rintro t v a hv hform
  cases hform with
  | name hlookup =>
    cases Tree.value?_eq_some_iff.1 hv
    exact readAlternative_name.2 hlookup
  | plain hlookup =>
    obtain ⟨u, rfl, hu⟩ := exists_member_of_value? hv
    exact readAlternative_member.2 (.inl ⟨hlookup, reads_readNull.takes u _ () hu rfl⟩)
  | carrying hlookup hform =>
    obtain ⟨u, rfl, hu⟩ := exists_member_of_value? hv
    exact readAlternative_member.2 (.inr ⟨_, hlookup, h _ _ hlookup u _ a hu hform⟩)

/-- An object that is read as an alternative has one member and is closed. -/
private theorem exists_member_of_readAlternative {members : List (Spelling × Tree)}
    {ending : Ending}
    {a : α} (h : readAlternative known (.object members ending) = .ok a) :
    ∃ name t, members = [(.ok name, t)] ∧ ending = .closed := by
  unfold readAlternative at h
  split at h
  · next heq => cases heq
  · next name t others ending' heq =>
    cases heq
    obtain ⟨key, hname, h⟩ := bind_eq_ok_iff.1 h
    obtain ⟨alternative, -, h⟩ := bind_eq_ok_iff.1 h
    have hclosed : others = [] ∧ ending = .closed := by
      -- What stands behind the member is looked at in the same way for all alternatives.
      cases alternative <;>
      · obtain ⟨_, -, h⟩ := bind_eq_ok_iff.1 h
        split at h
        · exact ⟨rfl, rfl⟩
        all_goals cases h
    obtain ⟨rfl, rfl⟩ := hclosed
    exact ⟨key, t, by rw [hname], rfl⟩
  · next heq =>
    split at h <;> cases h
  · cases h
  · cases h

theorem reads_readAlternative
    (h : ∀ name read, known.lookup name = some (.carrying read) → read.Reads (Form name)) :
    Reader.Reads (readAlternative known) (Value.IsOneOf known Form) where
  takes := takes_readAlternative fun name read hlookup => (h name read hlookup).takes
  gives t a ht ha := by
    cases t with
    | string spelling =>
      obtain ⟨name, rfl, -⟩ := bind_eq_ok_iff.1 ha
      exact ⟨.string name, rfl, .name (readAlternative_name.1 ha)⟩
    | object members ending =>
      obtain ⟨name, t, rfl, rfl⟩ := exists_member_of_readAlternative ha
      have ht : t.IsFormed := ht.isFormed_of_mem_object (List.mem_singleton_self _)
      -- The value behind the name decides what the whole object is.
      have hvalue : ∀ v, t.value? = some v →
          (Tree.object [(.ok name, t)] .closed).value? = some (.object [(name, v)]) := fun v hv =>
        Tree.value?_eq_some_iff.2 (.object (.cons ⟨rfl, hv⟩ .nil))
      rcases readAlternative_member.1 ha with ⟨hlookup, hnull⟩ | ⟨read, hlookup, hread⟩
      · obtain ⟨_, hv, rfl⟩ := reads_readNull.gives t () ht hnull
        exact ⟨_, hvalue _ hv, .plain hlookup⟩
      · obtain ⟨v, hv, hform⟩ := (h name read hlookup).gives t a ht hread
        exact ⟨_, hvalue v hv, .carrying hlookup hform⟩
    | _ => cases ha

end Alternatives

/-! ### Whole texts -/

section Texts

variable {read : Reader α} {Form : Value → α → Prop} {text : String} {a : α}

theorem ofText?_eq_some_iff {v : Value} : Value.ofText? text = some v ↔
    (Document.ofText text).trailing = false ∧ (Document.ofText text).root.value? = some v := by
  unfold Value.ofText?
  cases h : (Document.ofText text).trailing <;> simp [h]

theorem Reader.ofText_eq_ok_iff_root : Reader.ofText read text = .ok a ↔
    read (Document.ofText text).root = .ok a ∧ (Document.ofText text).trailing = false := by
  unfold Reader.ofText
  simp only [bind_eq_ok_iff, ite_throw_eq_ok_iff, pure_eq_ok_iff, Bool.not_eq_true]
  constructor
  · rintro ⟨b, hb, htrailing, rfl⟩
    exact ⟨hb, htrailing⟩
  · rintro ⟨ha, htrailing⟩
    exact ⟨a, ha, htrailing, rfl⟩

/-- The text of a value of the form is taken. -/
theorem Reader.Takes.ofText_eq_ok (h : read.Takes Form) {v : Value}
    (htext : Value.ofText? text = some v) (ha : Form v a) : Reader.ofText read text = .ok a := by
  obtain ⟨htrailing, hv⟩ := ofText?_eq_some_iff.1 htext
  exact Reader.ofText_eq_ok_iff_root.2 ⟨h _ v a hv ha, htrailing⟩

/-- **A text is read if it spells a value of the form,** and then the value says what is read. -/
theorem Reader.Reads.ofText_eq_ok_iff_exists (h : read.Reads Form) :
    Reader.ofText read text = .ok a ↔ ∃ v, Value.ofText? text = some v ∧ Form v a := by
  constructor
  · intro hread
    obtain ⟨ha, htrailing⟩ := Reader.ofText_eq_ok_iff_root.1 hread
    obtain ⟨v, hv, hform⟩ := h.gives _ a (isFormed_ofText text) ha
    exact ⟨v, ofText?_eq_some_iff.2 ⟨htrailing, hv⟩, hform⟩
  · rintro ⟨v, htext, hform⟩
    exact h.takes.ofText_eq_ok htext hform

end Texts

end LSystem.Json
