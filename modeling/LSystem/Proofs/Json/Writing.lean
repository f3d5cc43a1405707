import LSystem.Json.Value
import LSystem.Proofs.Json.Lexing
import LSystem.Proofs.Json.Reading

/-!
# Values written and read back

The text of a value spells the value (`Value.IsClean.ofText?_text`), provided that its numerals are
ones that JSON allows. The two halves of reading are followed separately. The characters of a value
fall into lexemes in the same way wherever a value may end behind them (`Falls`), and the machine
that is fed these lexemes where it awaits a value comes to have read a tree with that value
(`Builds`). For lists and objects both are inductions along the elements, behind the first of which
everything begins with a comma.

Of numbers with single precision it is assumed that what is written for them reads back
(`ReadsBack`). This can only be so if JSON allows the numeral, so the assumption is all that is
needed of them (`isClean_and_isSingle`).
-/

namespace LSystem.Json

open LSystem.Decimal

/-! ### The characters of a value -/

/-- What stands in front of an element. -/
def separator (first : Bool) : List Char := if first then [] else [',']

mutual

/-- The characters of a value. -/
def Value.chars : Value → List Char
  | .null => ['n', 'u', 'l', 'l']
  | .bool true => ['t', 'r', 'u', 'e']
  | .bool false => ['f', 'a', 'l', 's', 'e']
  | .number n => n.chars
  | .string s => stringChars s
  | .list items => '[' :: (itemChars true items ++ [']'])
  | .object members => '\x7b' :: (memberChars true members ++ ['\x7d'])

/-- The characters of the items of a list. -/
def itemChars (first : Bool) : List Value → List Char
  | [] => []
  | v :: vs => separator first ++ (v.chars ++ itemChars false vs)

/-- The characters of the members of an object. -/
def memberChars (first : Bool) : List (String × Value) → List Char
  | [] => []
  | (key, v) :: ms =>
    separator first ++ (stringChars key ++ ':' :: (v.chars ++ memberChars false ms))

end

theorem toList_put (text : String) (cs : List Char) :
    (Value.put text cs).toList = text.toList ++ cs := by
  unfold Value.put
  induction cs generalizing text with
  | nil => simp
  | cons c cs ih => rw [List.foldl_cons, ih, String.toList_push, List.append_assoc]; rfl

theorem toList_separate (first : Bool) (text : String) :
    (Value.separate first text).toList = text.toList ++ separator first := by
  cases first with
  | true => simp [Value.separate, separator]
  | false => simp [Value.separate, separator]

mutual

theorem toList_writeOnto (text : String) :
    ∀ v : Value, (v.writeOnto text).toList = text.toList ++ v.chars
  | .null => by simp [Value.writeOnto, Value.chars]
  | .bool true => by simp [Value.writeOnto, Value.chars]
  | .bool false => by simp [Value.writeOnto, Value.chars]
  | .number n => by rw [Value.writeOnto, toList_put, Value.chars]
  | .string s => by rw [Value.writeOnto, toList_put, Value.chars]
  | .list items => by
    rw [Value.writeOnto, String.toList_push, toList_writeItems, String.toList_push, Value.chars]
    simp
  | .object members => by
    rw [Value.writeOnto, String.toList_push, toList_writeMembers, String.toList_push, Value.chars]
    simp

theorem toList_writeItems (first : Bool) (text : String) :
    ∀ vs : List Value, (Value.writeItems first text vs).toList = text.toList ++ itemChars first vs
  | [] => by simp [Value.writeItems, itemChars]
  | v :: vs => by
    rw [Value.writeItems, toList_writeItems, toList_writeOnto, toList_separate, itemChars]
    simp

theorem toList_writeMembers (first : Bool) (text : String) :
    ∀ ms : List (String × Value),
      (Value.writeMembers first text ms).toList = text.toList ++ memberChars first ms
  | [] => by simp [Value.writeMembers, memberChars]
  | (key, v) :: ms => by
    rw [Value.writeMembers, toList_writeMembers, toList_writeOnto, String.toList_push, toList_put,
      toList_separate, memberChars]
    simp

end

theorem Value.toList_text (v : Value) : v.text.toList = v.chars := by
  rw [Value.text, toList_writeOnto]
  rfl

/-! ### The two halves -/

/-- **Characters that fall into lexemes,** wherever a value may end behind them. -/
def Falls (cs : List Char) (ls : List Lexeme) : Prop :=
  ∀ done rest, EndsValue rest →
    lexemesOnto done (cs ++ rest) = lexemesOnto (ls.reverse ++ done) rest

/-- A state that waits for a value, which is to be put into the given levels. -/
def State.Awaits (s : State) (outer : List Level) : Prop :=
  ∀ l, l ≠ .closeList → s.step l = .begin outer l

/-- **Lexemes of which the machine builds a value** where it waits for one. -/
def Builds (ls : List Lexeme) (v : Value) : Prop :=
  ∃ t : Tree, t.value? = some v ∧
    ∀ s outer, State.Awaits s outer → ls.foldl State.step s = .place t outer

theorem awaits_value (outer : List Level) : State.Awaits (.value outer) outer :=
  fun _ hl => State.step_value outer hl

private theorem awaits_listStart (outer : List Level) :
    State.Awaits (.listStart outer) (.list [] :: outer) :=
  fun _ hl => State.step_listStart outer hl

theorem Falls.append {cs cs' : List Char} {ls ls' : List Lexeme} (h : Falls cs ls)
    (h' : Falls cs' ls') (hends : ∀ rest, EndsValue rest → EndsValue (cs' ++ rest)) :
    Falls (cs ++ cs') (ls ++ ls') := by
  intro done rest hrest
  rw [List.append_assoc, h _ _ (hends rest hrest), h' _ _ hrest, List.reverse_append,
    List.append_assoc]

theorem IsCut.falls {cs : List Char} {l : Lexeme} (h : IsCut cs l) : Falls cs [l] :=
  fun done _ hrest => h.lexemesOnto_append hrest done

/-- A lexeme of one character does not depend on what follows. -/
theorem Falls.cons {c : Char} {cs : List Char} {l : Lexeme} {ls : List Lexeme}
    (hc : isBlank c = false) (hcut : ∀ rest, cutFrom c rest = (l, rest)) (h : Falls cs ls) :
    Falls (c :: cs) (l :: ls) := by
  intro done rest hrest
  rw [List.cons_append, lexemesOnto_cons hc, hcut, h _ _ hrest, List.reverse_cons,
    List.append_assoc]
  rfl

/-- A lexeme that is a value by itself. -/
private theorem builds_singleton {l : Lexeme} {t : Tree} {v : Value} (ht : t.value? = some v)
    (hl : l ≠ .closeList) (h : ∀ outer, State.begin outer l = .place t outer) : Builds [l] v :=
  ⟨t, ht, fun _ outer hs => (hs l hl).trans (h outer)⟩

/-! ### Elements -/

/-- A value whose characters fall into lexemes that build it. -/
def Value.IsReadable (v : Value) : Prop := ∃ ls, Falls v.chars ls ∧ Builds ls v

theorem endsValue_itemChars (vs : List Value) {rest : List Char} (h : EndsValue rest) :
    EndsValue (itemChars false vs ++ rest) := by
  cases vs with
  | nil => exact h
  | cons v vs =>
    rw [itemChars]
    rintro c ⟨⟩
    exact .inl rfl

theorem endsValue_memberChars (ms : List (String × Value)) {rest : List Char}
    (h : EndsValue rest) : EndsValue (memberChars false ms ++ rest) := by
  cases ms with
  | nil => exact h
  | cons m ms =>
    rw [memberChars]
    rintro c ⟨⟩
    exact .inl rfl

/-- Items behind a comma. -/
private theorem exists_lexemes_items {vs : List Value} (h : ∀ v ∈ vs, v.IsReadable) :
    ∃ ls ts, Falls (itemChars false vs) ls ∧
      List.Forall₂ (fun (t : Tree) v => t.value? = some v) ts vs ∧
      ∀ items outer, ls.foldl State.step (.listNext items outer) =
        .listNext (ts.reverse ++ items) outer := by
  -- The items read before are in front of `items`, the last one first.
  induction vs with
  | nil => exact ⟨[], [], fun _ _ _ => rfl, .nil, fun _ _ => rfl⟩
  | cons v vs ih =>
    obtain ⟨⟨ls, hls, t, ht, hbuild⟩, hvs⟩ := List.forall_mem_cons.1 h
    obtain ⟨ls', ts, hls', hts, hrest⟩ := ih hvs
    refine ⟨.comma :: (ls ++ ls'), t :: ts, ?_, .cons ht hts, fun items outer => ?_⟩
    · rw [itemChars]
      exact .cons rfl (fun _ => rfl) (hls.append hls' fun _ => endsValue_itemChars vs)
    · have hcomma : State.step (.listNext items outer) .comma = .value (.list items :: outer) := rfl
      rw [List.foldl_cons, hcomma, List.foldl_append, hbuild _ _ (awaits_value _)]
      change ls'.foldl State.step (.listNext (t :: items) outer) = _
      rw [hrest, List.reverse_cons, List.append_assoc]
      rfl

private theorem isReadable_list {vs : List Value} (h : ∀ v ∈ vs, v.IsReadable) :
    (Value.list vs).IsReadable := by
  have hclose : Falls [']'] [.closeList] := .cons rfl (fun _ => rfl) fun _ _ _ => rfl
  have hends {rest : List Char} : EndsValue (']' :: rest) := by
    rintro c ⟨⟩
    exact .inr (.inl rfl)
  -- The empty list has no first item for the separators to stand behind.
  cases vs with
  | nil =>
    refine ⟨[.openList, .closeList], ?_, .list [] .closed, rfl, fun s outer hs => ?_⟩
    · rw [Value.chars, itemChars]
      exact .cons rfl (fun _ => rfl) hclose
    · rw [List.foldl_cons, hs _ (by simp)]
      rfl
  | cons v vs =>
    obtain ⟨⟨ls, hls, t, ht, hbuild⟩, hvs⟩ := List.forall_mem_cons.1 h
    obtain ⟨ls', ts, hls', hts, hrest⟩ := exists_lexemes_items hvs
    refine ⟨.openList :: (ls ++ (ls' ++ [.closeList])), ?_, .list (t :: ts) .closed,
      Tree.value?_eq_some_iff.2 (.list (.cons ht hts)), fun s outer hs => ?_⟩
    · have hitems := hls'.append hclose fun _ _ => hends
      have hvalues := hls.append hitems fun rest _ => by
        rw [List.append_assoc]
        exact endsValue_itemChars vs hends
      rw [Value.chars, itemChars, separator, if_pos rfl, List.nil_append, List.append_assoc]
      exact .cons rfl (fun _ => rfl) hvalues
    · -- The builder keeps the items last first, and the closing bracket turns them round.
      have hopen : State.begin outer .openList = .listStart outer := rfl
      rw [List.foldl_cons, hs _ (by simp), hopen, List.foldl_append,
        hbuild _ _ (awaits_listStart _), List.foldl_append]
      change List.foldl _ (ls'.foldl State.step (.listNext [t] outer)) _ = _
      rw [hrest]
      change State.place (State.list (ts.reverse ++ [t]) .closed) outer = _
      rw [State.list, List.reverse_append, List.reverse_reverse]
      rfl

/-- A member behind a place where a key may stand. -/
theorem foldl_step_member {ls ls' : List Lexeme} {t : Tree} {s : State}
    {members : List (Spelling × Tree)} {outer : List Level} {key : Spelling}
    (hs : s.step (.string key) = .colon members key outer)
    (hbuild : ∀ s outer, State.Awaits s outer → ls.foldl State.step s = .place t outer) :
    (.string key :: .colon :: (ls ++ ls')).foldl State.step s =
      ls'.foldl State.step (.objectNext ((key, t) :: members) outer) := by
  have hcolon : State.step (.colon members key outer) .colon =
    .value (.object members key :: outer) := rfl
  rw [List.foldl_cons, hs, List.foldl_cons, hcolon, List.foldl_append, hbuild _ _ (awaits_value _)]
  rfl

theorem Falls.member {cs : List Char} {ls : List Lexeme} (h : Falls cs ls) (key : String) :
    Falls (stringChars key ++ ':' :: cs) (.string (.ok key) :: .colon :: ls) := by
  intro done rest hrest
  have hcolon := Falls.cons (c := ':') rfl (fun _ => rfl) h
  rw [List.append_assoc, lexemesOnto_stringChars, hcolon _ _ hrest]
  simp

/-- Members behind a comma. -/
private theorem exists_lexemes_members {ms : List (String × Value)} (h : ∀ m ∈ ms, m.2.IsReadable) :
    ∃ ls ts, Falls (memberChars false ms) ls ∧ List.Forall₂ IsMember ts ms ∧
      ∀ members outer, ls.foldl State.step (.objectNext members outer) =
        .objectNext (ts.reverse ++ members) outer := by
  induction ms with
  | nil => exact ⟨[], [], fun _ _ _ => rfl, .nil, fun _ _ => rfl⟩
  | cons m ms ih =>
    obtain ⟨key, v⟩ := m
    obtain ⟨⟨ls, hls, t, ht, hbuild⟩, hms⟩ := List.forall_mem_cons.1 h
    obtain ⟨ls', ts, hls', hts, hrest⟩ := ih hms
    -- A later member brings its comma, its key and its colon before the value.
    refine ⟨.comma :: .string (.ok key) :: .colon :: (ls ++ ls'), (.ok key, t) :: ts, ?_,
      .cons ⟨rfl, ht⟩ hts, fun members outer => ?_⟩
    · have hvalues := hls.append hls' fun _ => endsValue_memberChars ms
      rw [memberChars]
      exact .cons rfl (fun _ => rfl) (hvalues.member key)
    · have hcomma : State.step (.objectNext members outer) .comma = .key members outer := rfl
      rw [List.foldl_cons, hcomma,
        foldl_step_member (State.step_key members outer (by simp)) hbuild, hrest]
      simp

private theorem isReadable_object {ms : List (String × Value)} (h : ∀ m ∈ ms, m.2.IsReadable) :
    (Value.object ms).IsReadable := by
  have hclose : Falls ['\x7d'] [.closeObject] := .cons rfl (fun _ => rfl) fun _ _ _ => rfl
  have hends {rest : List Char} : EndsValue ('\x7d' :: rest) := by
    rintro c ⟨⟩
    exact .inr (.inr rfl)
  -- As for lists, with the first member apart since no comma stands before it.
  cases ms with
  | nil =>
    refine ⟨[.openObject, .closeObject], ?_, .object [] .closed, rfl, fun s outer hs => ?_⟩
    · rw [Value.chars, memberChars]
      exact .cons rfl (fun _ => rfl) hclose
    · rw [List.foldl_cons, hs _ (by simp)]
      rfl
  | cons m ms =>
    obtain ⟨key, v⟩ := m
    obtain ⟨⟨ls, hls, t, ht, hbuild⟩, hms⟩ := List.forall_mem_cons.1 h
    obtain ⟨ls', ts, hls', hts, hrest⟩ := exists_lexemes_members hms
    refine ⟨.openObject :: .string (.ok key) :: .colon :: (ls ++ (ls' ++ [.closeObject])), ?_,
      .object ((.ok key, t) :: ts) .closed,
      Tree.value?_eq_some_iff.2 (.object (.cons ⟨rfl, ht⟩ hts)), fun s outer hs => ?_⟩
    · have hmembers := hls'.append hclose fun _ _ => hends
      have hvalues := hls.append hmembers fun rest _ => by
        rw [List.append_assoc]
        exact endsValue_memberChars ms hends
      rw [Value.chars, memberChars]
      simp only [separator, if_true, List.nil_append, List.append_assoc, List.cons_append]
      exact .cons rfl (fun _ => rfl) (hvalues.member key)
    · have hopen : State.begin outer .openObject = .objectStart outer := rfl
      rw [List.foldl_cons, hs _ (by simp), hopen,
        foldl_step_member (State.step_objectStart outer (by simp)) hbuild, List.foldl_append, hrest]
      change State.place (State.object (ts.reverse ++ [(.ok key, t)]) .closed) outer = _
      rw [State.object, List.reverse_append, List.reverse_reverse]
      rfl

/-! ### Whole values -/

/-- **A value whose numerals JSON allows.** -/
inductive Value.IsClean : Value → Prop
  | null : IsClean .null
  | bool (b : Bool) : IsClean (.bool b)
  | number {n : Numeral} (h : n.IsJson) : IsClean (.number n)
  | string (s : String) : IsClean (.string s)
  | list {items : List Value} (h : ∀ v ∈ items, IsClean v) : IsClean (.list items)
  | object {members : List (String × Value)} (h : ∀ m ∈ members, IsClean m.2) :
      IsClean (.object members)

theorem Value.IsClean.isReadable {v : Value} (h : v.IsClean) : v.IsReadable := by
  induction h with
  | null => exact ⟨_, isCut_null.falls, builds_singleton rfl (by simp) fun _ => rfl⟩
  | bool b =>
    cases b with
    | true => exact ⟨_, isCut_true.falls, builds_singleton rfl (by simp) fun _ => rfl⟩
    | false => exact ⟨_, isCut_false.falls, builds_singleton rfl (by simp) fun _ => rfl⟩
  | number hn => exact ⟨_, (isCut_numeral hn).falls, builds_singleton rfl (by simp) fun _ => rfl⟩
  | string s =>
    exact ⟨[.string (.ok s)], fun done rest _ => lexemesOnto_stringChars s done rest,
      builds_singleton rfl (by simp) fun _ => rfl⟩
  | list _ ih => exact isReadable_list ih
  | object _ ih => exact isReadable_object ih

/-- **The text of a value spells the value.** -/
theorem Value.IsClean.ofText?_text {v : Value} (h : v.IsClean) :
    Value.ofText? v.text = some v := by
  obtain ⟨ls, hls, t, ht, hbuild⟩ := h.isReadable
  -- The whole text is cut to lexemes with nothing before it and nothing behind.
  have hlexemes : lexemes v.text = ls := by
    have hall := hls [] [] fun c hc => by cases hc
    rw [List.append_nil, List.append_nil, lexemesOnto, List.reverse_reverse] at hall
    rw [lexemes, Value.toList_text, hall]
  have hdocument : Document.ofText v.text = ⟨t, false⟩ := by
    rw [Document.ofText, hlexemes, hbuild _ _ (awaits_value [])]
    rfl
  rw [ofText?_eq_some_iff, hdocument]
  exact ⟨rfl, ht⟩

/-! ### Numbers -/

/-- **What is written for a number reads back.** -/
def ReadsBack (x : Float32) : Prop := Reader.ofText readSingle (Value.ofSingle x).text = .ok x

instance (x : Float32) : Decidable (ReadsBack x) :=
  inferInstanceAs (Decidable (Reader.ofText readSingle (Value.ofSingle x).text = .ok x))

/-- Numerals that JSON does not allow are not read. -/
theorem ofText?_number_eq_none {n : Numeral} (h : ¬ n.IsJson) :
    Value.ofText? (Value.number n).text = none := by
  have htext : (Value.number n).text.toList = n.chars := Value.toList_text _
  -- A numeral that is not JSON breaks off, or there is nothing of it to be read.
  have hroot : ∃ b, Document.ofText (Value.number n).text = ⟨.broken b, false⟩ := by
    unfold Document.ofText lexemes
    rw [htext]
    rcases exists_broken_of_not_isJson h with hnil | ⟨c, cs, b, hchars, hblank, hcut⟩
    · rw [hnil, lexemesOnto]
      exact ⟨_, rfl⟩
    · rw [hchars, lexemesOnto_cons hblank, hcut, lexemesOnto]
      exact ⟨b, rfl⟩
  obtain ⟨b, hb⟩ := hroot
  unfold Value.ofText?
  rw [hb]
  rfl

theorem isClean_and_isSingle {x : Float32} (h : ReadsBack x) :
    (Value.ofSingle x).IsClean ∧ (Value.ofSingle x).IsSingle x := by
  -- A value has been read, and a numeral that is none of JSON would not have been.
  obtain ⟨v, hv, hsingle⟩ := reads_readSingle.ofText_eq_ok_iff_exists.1 h
  have hclean : (Value.ofSingle x).IsClean := by
    unfold Value.ofSingle at hv ⊢
    split
    · next n hn =>
      rw [hn] at hv
      refine .number (Classical.byContradiction fun hnot => ?_)
      rw [ofText?_number_eq_none hnot] at hv
      cases hv
    · exact .null
  rw [hclean.ofText?_text] at hv
  cases hv
  exact ⟨hclean, hsingle⟩

theorem isClean_ofNat (k : Nat) : (Value.ofNat k).IsClean := .number (Numeral.isJson_ofNat k)

theorem isNatural_ofNat (k : Nat) : (Value.ofNat k).IsNatural k :=
  ⟨digits k, rfl, value_digits k⟩

end LSystem.Json
