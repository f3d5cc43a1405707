import LSystem.Grammar.Word
import LSystem.Proofs.Symbol.Interning

/-!
# Which words can be read back

A wide token is set off by blanks and tokens contain none, so wide tokens cannot run into their
neighbours. Narrow tokens stand next to each other and are one character each, so a run of them
falls apart in one way only. What is left is a wide token in the place of a run: `AB` may be one
token or two, and the blanks do not tell, because a run at the beginning of a text, at its end or
between wide tokens has the same blanks around it as a wide token.

This happens exactly if all characters of some wide token are tokens themselves
(`SymbolTable.SpellsOut`). If there is such a token, it is written like its characters; if there is
none, reading goes from left to right. At each place both words have a wide token, which then ends
at the next blank, or both have a narrow one, which is the next character; otherwise one of them has
a wide token where the other one has a run of narrow ones (`behind_injective`). Words with different
symbols thus have different texts exactly if no wide token can be spelled out
(`render_injective_iff`).
-/

namespace LSystem

open SymbolTable

/-- Whether all characters of a token are tokens of the table. -/
def SymbolTable.SpellsOut (t : SymbolTable) (name : String) : Prop :=
  ∀ c ∈ name.toList, String.singleton c ∈ t.toList

/-- Whether all symbols of a word are numbers of the table. -/
def SymbolTable.Covers (t : SymbolTable) (w : Word) : Prop := ∀ s ∈ w, s.toNat < t.size

namespace Word

variable {t : SymbolTable} {token : String} {tokens tokens' : List String} {wide : Bool}
  {w w' : Word} {s : Symbol}

/-! ### Tokens -/

theorem isBlank_of_isToken (h : isToken token) {c : Char} (hc : c ∈ token.toList) :
    Text.isBlank c = false := by
  simp only [isToken, Bool.and_eq_true, Bool.not_eq_true', List.any_eq_false] at h
  simpa using h.2 c hc

theorem ne_blank_of_isToken (h : isToken token) {c : Char} (hc : c ∈ token.toList) : c ≠ ' ' := by
  rintro rfl
  exact absurd (isBlank_of_isToken h hc) (by decide)

theorem ne_empty_of_isToken (h : isToken token) : token ≠ "" := by
  rintro rfl
  exact absurd h (by decide)

/-- A narrow token is a single character. -/
theorem exists_eq_singleton (h : isToken token) (hnarrow : isWide token = false) :
    ∃ c, token = String.singleton c := by
  have hlength : token.toList.length = 1 := by
    have hpos : token.toList ≠ [] := fun hnil => ne_empty_of_isToken h (by simpa using hnil)
    rw [isWide, decide_eq_false_iff_not, ← String.length_toList] at hnarrow
    have := List.length_pos_iff.2 hpos
    omega
  obtain ⟨c, hc⟩ := List.length_eq_one_iff.1 hlength
  exact ⟨c, by rw [← String.toList_inj, hc, String.toList_singleton]⟩

theorem isWide_singleton (c : Char) : isWide (String.singleton c) = false := by
  rw [isWide, String.length_singleton]
  rfl

/-! ### Writing -/

/-- What is written for tokens behind a text, the last token of which was wide or not. -/
def behind (wide : Bool) : List String → List Char
  | [] => []
  | token :: tokens =>
    (if isWide token || wide then [' '] else []) ++
      (token.toList ++ behind (isWide token) tokens)

theorem toList_writeOnto {text : String} (htext : text ≠ "") (wide : Bool)
    (tokens : List String) :
    (writeOnto text wide tokens).toList = text.toList ++ behind wide tokens := by
  induction tokens generalizing text wide with
  | nil => rw [writeOnto, behind, List.append_nil]
  | cons token tokens ih =>
    have hempty : text.isEmpty = false := by simpa using htext
    rw [writeOnto, behind, hempty]
    cases isWide token || wide with
    | false => rw [ih (by simp [htext])]; simp
    | true => rw [ih (by simp)]; simp

/-- Narrow tokens are written next to each other. -/
theorem toList_writeOnto_of_narrow (text : String)
    (h : ∀ token ∈ tokens, isWide token = false) :
    (writeOnto text false tokens).toList = text.toList ++ tokens.flatMap String.toList := by
  induction tokens generalizing text with
  | nil => rw [writeOnto, List.flatMap_nil, List.append_nil]
  | cons token tokens ih =>
    obtain ⟨htoken, htokens⟩ := List.forall_mem_cons.1 h
    rw [writeOnto, htoken]
    simp [ih _ htokens]

/-- The first token of a text has nothing before it. -/
private theorem toList_writeOnto_cons (h : isToken token) (tokens : List String) :
    (writeOnto "" false (token :: tokens)).toList =
      token.toList ++ behind (isWide token) tokens := by
  have hfirst : writeOnto "" false (token :: tokens) = writeOnto token (isWide token) tokens := by
    rw [writeOnto, show "".isEmpty = true from rfl, Bool.not_true, Bool.false_and,
      if_neg Bool.false_ne_true, String.empty_append]
  rw [hfirst, toList_writeOnto (ne_empty_of_isToken h)]

/-! ### Reading -/

/-- A wide token ends at the first blank behind it. -/
private theorem takeWhile_wide (h : isToken token) (tokens : List String) :
    (token.toList ++ behind true tokens).takeWhile (· != ' ') = token.toList := by
  rw [List.takeWhile_append_of_pos fun c hc => by simpa using ne_blank_of_isToken h hc]
  cases tokens <;> simp [behind]

theorem behind_ne_nil (h : isToken token) : behind wide (token :: tokens) ≠ [] := by
  have := ne_empty_of_isToken h
  simp [behind, this]

theorem behind_narrow {c : Char} :
    behind false (String.singleton c :: tokens) = c :: behind false tokens := by
  rw [behind, isWide_singleton, String.toList_singleton]
  rfl

section Reading

variable (hnames : ∀ name ∈ t.toList, isToken name)
include hnames

/-- Up to a blank, only narrow tokens are written. -/
private theorem singleton_mem_of_behind (hmem : ∀ token ∈ tokens, token ∈ t.toList)
    {cs rest : List Char} (hcs : ∀ c ∈ cs, c ≠ ' ') (h : behind false tokens = cs ++ rest) :
    ∀ c ∈ cs, String.singleton c ∈ t.toList := by
  induction tokens generalizing cs with
  | nil =>
    obtain ⟨rfl, -⟩ := List.append_eq_nil_iff.1 h.symm
    exact fun c hc => absurd hc List.not_mem_nil
  | cons token tokens ih =>
    obtain ⟨htoken, htokens⟩ := List.forall_mem_cons.1 hmem
    cases cs with
    | nil => exact fun c hc => absurd hc List.not_mem_nil
    | cons c cs =>
      obtain ⟨hc, hcs'⟩ := List.forall_mem_cons.1 hcs
      -- A wide token would begin with the blank that keeps it apart, and there is none among these.
      cases hwide : isWide token with
      | true =>
        rw [behind, hwide] at h
        exact absurd (List.cons.inj h).1.symm hc
      | false =>
        obtain ⟨d, rfl⟩ := exists_eq_singleton (hnames _ htoken) hwide
        rw [behind_narrow] at h
        obtain ⟨rfl, hbehind⟩ := List.cons.inj h
        exact List.forall_mem_cons.2 ⟨htoken, ih htokens hcs' hbehind⟩

/-- A wide token and a narrow one cannot stand in the same place, if the characters of the wide one
are not all tokens. -/
private theorem behind_wide_ne_narrow {token' : String} (htoken : token ∈ t.toList)
    (hmem' : ∀ token ∈ token' :: tokens', token ∈ t.toList) (hwide : isWide token = true)
    (hnarrow : isWide token' = false) (hapart : ¬ t.SpellsOut token) :
    behind wide (token :: tokens) ≠ behind wide (token' :: tokens') := by
  intro h
  cases wide with
  | false =>
    -- Only the wide token is set off.
    have htoken' := hnames _ (hmem' _ List.mem_cons_self)
    obtain ⟨c, rfl⟩ := exists_eq_singleton htoken' hnarrow
    rw [behind_narrow, behind, hwide] at h
    exact ne_blank_of_isToken htoken' (by simp) (List.cons.inj h).1.symm
  | true =>
    -- Both are set off, and the narrow one has its run behind it.
    have hrun : behind true (token' :: tokens') = ' ' :: behind false (token' :: tokens') := by
      rw [behind, behind, hnarrow]
      rfl
    have hblank : ∀ c ∈ token.toList, c ≠ ' ' := fun c => ne_blank_of_isToken (hnames _ htoken)
    rw [hrun, behind, hwide] at h
    exact hapart (singleton_mem_of_behind hnames hmem' hblank (List.cons.inj h).2.symm)

/-- **What has been written can be read back** from left to right, if no wide token can be spelled
out. -/
theorem behind_injective (hapart : ∀ name ∈ t.toList, isWide name → ¬ t.SpellsOut name)
    (hmem : ∀ token ∈ tokens, token ∈ t.toList) (hmem' : ∀ token ∈ tokens', token ∈ t.toList)
    (h : behind wide tokens = behind wide tokens') : tokens = tokens' := by
  induction tokens generalizing tokens' wide with
  | nil =>
    cases tokens' with
    | nil => rfl
    | cons token' tokens' =>
      exact absurd h.symm (behind_ne_nil (hnames _ (hmem' _ List.mem_cons_self)))
  | cons token tokens ih =>
    cases tokens' with
    | nil => exact absurd h (behind_ne_nil (hnames _ (hmem _ List.mem_cons_self)))
    | cons token' tokens' =>
      obtain ⟨htoken, htokens⟩ := List.forall_mem_cons.1 hmem
      obtain ⟨htoken', htokens'⟩ := List.forall_mem_cons.1 hmem'
      cases hwide : isWide token <;> cases hwide' : isWide token'
      case true.true =>
        rw [behind, behind, hwide, hwide'] at h
        have hcs := List.append_cancel_left h
        -- Both end at the next blank.
        have hends := congrArg (List.takeWhile (· != ' ')) hcs
        rw [takeWhile_wide (hnames _ htoken), takeWhile_wide (hnames _ htoken'),
          String.toList_inj] at hends
        subst hends
        rw [ih htokens htokens' (List.append_cancel_left hcs)]
      case true.false =>
        exact absurd h
          (behind_wide_ne_narrow hnames htoken hmem' hwide hwide' (hapart _ htoken hwide))
      case false.true =>
        exact absurd h.symm
          (behind_wide_ne_narrow hnames htoken' hmem hwide' hwide (hapart _ htoken' hwide'))
      case false.false =>
        -- Both are the next character.
        obtain ⟨c, rfl⟩ := exists_eq_singleton (hnames _ htoken) hwide
        obtain ⟨d, rfl⟩ := exists_eq_singleton (hnames _ htoken') hwide'
        rw [behind, behind, hwide, hwide', String.toList_singleton, String.toList_singleton] at h
        obtain ⟨rfl, hbehind⟩ := List.cons.inj (List.append_cancel_left h)
        rw [ih htokens htokens' hbehind]

/-- A text has one list of tokens only, if no wide token can be spelled out. -/
private theorem writeOnto_injective (hapart : ∀ name ∈ t.toList, isWide name → ¬ t.SpellsOut name)
    (hmem : ∀ token ∈ tokens, token ∈ t.toList) (hmem' : ∀ token ∈ tokens', token ∈ t.toList)
    (h : writeOnto "" false tokens = writeOnto "" false tokens') : tokens = tokens' := by
  have hne {token : String} {tokens : List String} (hmem : ∀ s ∈ token :: tokens, s ∈ t.toList) :
      writeOnto "" false (token :: tokens) ≠ "" := by
    have htoken := hnames _ (hmem _ List.mem_cons_self)
    rw [ne_eq, ← String.toList_eq_nil_iff, toList_writeOnto_cons htoken]
    simp [ne_empty_of_isToken htoken]
  cases tokens with
  | nil =>
    cases tokens' with
    | nil => rfl
    | cons token' tokens' => exact absurd h.symm (hne hmem')
  | cons token tokens =>
    cases tokens' with
    | nil => exact absurd h (hne hmem)
    | cons token' tokens' =>
      -- Behind a blank, both texts could stand after a wide token.
      have hbehind : behind true (token :: tokens) = behind true (token' :: tokens') := by
        rw [behind, behind, Bool.or_true, Bool.or_true,
          ← toList_writeOnto_cons (hnames _ (hmem _ List.mem_cons_self)),
          ← toList_writeOnto_cons (hnames _ (hmem' _ List.mem_cons_self)), h]
      exact behind_injective hnames hapart hmem hmem' hbehind

end Reading

/-! ### Words -/

theorem name?_of_lt (h : s.toNat < t.size) : t.name? s = some (tokenOf t s) := by
  rw [tokenOf, name?_eq_getElem?, List.getElem?_eq_getElem (by rwa [← size_eq_length_toList]),
    Option.getD_some]

theorem token_mem (h : t.Covers w) : ∀ token ∈ w.map (tokenOf t), token ∈ t.toList := by
  intro token htoken
  obtain ⟨s, hs, rfl⟩ := List.mem_map.1 htoken
  exact mem_toList_of_name? (name?_of_lt (h s hs))

/-- Words of the same tokens are the same. -/
private theorem eq_of_map_tokenOf_eq (hw : t.Covers w) (hw' : t.Covers w')
    (h : w.map (tokenOf t) = w'.map (tokenOf t)) : w = w' := by
  induction w generalizing w' with
  | nil => rw [List.map_eq_nil_iff.1 h.symm]
  | cons s w ih =>
    cases w' with
    | nil => cases h
    | cons s' w' =>
      -- Symbols of the table have names of their own.
      obtain ⟨htoken, hrest⟩ := List.cons.inj h
      obtain ⟨hs, hw⟩ := List.forall_mem_cons.1 hw
      obtain ⟨hs', hw'⟩ := List.forall_mem_cons.1 hw'
      have hname := name?_of_lt hs'
      rw [← htoken] at hname
      rw [name?_inj (name?_of_lt hs) hname, ih hw hw' hrest]

/-- Tokens of the table have a word. -/
private theorem exists_map_tokenOf_eq (h : ∀ token ∈ tokens, token ∈ t.toList) :
    ∃ w, t.Covers w ∧ w.map (tokenOf t) = tokens := by
  induction tokens with
  | nil => exact ⟨[], fun s hs => absurd hs List.not_mem_nil, rfl⟩
  | cons token tokens ih =>
    obtain ⟨htoken, htokens⟩ := List.forall_mem_cons.1 h
    obtain ⟨s, hs⟩ := exists_name?_of_mem htoken
    obtain ⟨w, hw, hmap⟩ := ih htokens
    refine ⟨s :: w, List.forall_mem_cons.2 ⟨lt_of_name? hs, hw⟩, ?_⟩
    rw [List.map_cons, hmap, tokenOf, hs, Option.getD_some]

/-- A token that is spelled out has the same text as its characters. -/
private theorem writeOnto_singletons (name : String) :
    writeOnto "" false (name.toList.map String.singleton) = writeOnto "" false [name] := by
  have hnarrow : ∀ token ∈ name.toList.map String.singleton, isWide token = false := by
    intro token htoken
    obtain ⟨c, -, rfl⟩ := List.mem_map.1 htoken
    exact isWide_singleton c
  rw [← String.toList_inj, toList_writeOnto_of_narrow _ hnarrow, List.flatMap_map]
  simp [writeOnto]

/-- **Words with different symbols have different texts** exactly if no wide token can be spelled
out by tokens of one character. -/
theorem render_injective_iff (hnames : ∀ name ∈ t.toList, isToken name) :
    (∀ w w', t.Covers w → t.Covers w' → render t w = render t w' → w = w') ↔
      ∀ name ∈ t.toList, isWide name → ¬ t.SpellsOut name := by
  refine ⟨?_, ?_⟩
  · intro hinj name hname hwide hspelled
    have hsingletons : ∀ token ∈ name.toList.map String.singleton, token ∈ t.toList := by
      intro token htoken
      obtain ⟨c, hc, rfl⟩ := List.mem_map.1 htoken
      exact hspelled c hc
    obtain ⟨w, hw, hmap⟩ := exists_map_tokenOf_eq hsingletons
    obtain ⟨w', hw', hmap'⟩ := exists_map_tokenOf_eq (List.forall_mem_singleton.2 hname)
    have heq : render t w = render t w' := by
      rw [render, render, hmap, hmap', writeOnto_singletons]
    -- The words have different lengths, since the token is wide.
    have hlength := congrArg List.length (hmap.symm.trans (hinj w w' hw hw' heq ▸ hmap'))
    rw [List.length_map, String.length_toList, List.length_singleton] at hlength
    rw [isWide, hlength] at hwide
    exact absurd hwide (by decide)
  · intro hapart w w' hw hw' heq
    exact eq_of_map_tokenOf_eq hw hw'
      (writeOnto_injective hnames hapart (token_mem hw) (token_mem hw') heq)

/-- The letters of a table with one wide token are not enough to spell it out. -/
theorem render_injective_of_leaf :
    ∃ t : SymbolTable, t.toList = ["F", "leaf", "f"] ∧
      ∀ w w', t.Covers w → t.Covers w' → render t w = render t w' → w = w' := by
  have hadmits : SymbolTable.empty.Admits ["F", "leaf", "f"] := by decide
  obtain ⟨t, htokens : t.toList = ["F", "leaf", "f"]⟩ := exists_toList_eq hadmits
  refine ⟨t, htokens, (render_injective_iff ?_).2 fun name hname hwide hspelled => ?_⟩
  · rw [htokens]
    decide
  · -- Only one token is wide, and its first letter is no token.
    rw [htokens] at hname
    simp only [List.mem_cons, List.not_mem_nil, or_false] at hname
    rcases hname with rfl | rfl | rfl
    · exact absurd hwide (by decide)
    · have hletter := hspelled 'l' (by decide)
      rw [htokens] at hletter
      exact absurd hletter (by decide)
    · exact absurd hwide (by decide)

/-- **A text of two words:** the token of one symbol is spelled out by those of two others. -/
theorem render_not_injective :
    ∃ t : SymbolTable, t.toList = ["A", "B", "AB"] ∧ (∀ name ∈ t.toList, isToken name) ∧
      t.Covers [0, 1] ∧ t.Covers [2] ∧ render t [0, 1] = "AB" ∧ render t [2] = "AB" := by
  have hadmits : SymbolTable.empty.Admits ["A", "B", "AB"] := by decide
  obtain ⟨t, htokens : t.toList = ["A", "B", "AB"]⟩ := exists_toList_eq hadmits
  have hsize : t.size = 3 := by rw [size_eq_length_toList, htokens]; rfl
  have hname (s : Symbol) : tokenOf t s = (["A", "B", "AB"][s.toNat]?).getD "?" := by
    rw [tokenOf, name?_eq_getElem?, htokens]
  refine ⟨t, htokens, ?_, ?_, ?_, ?_, ?_⟩
  · rw [htokens]
    decide
  · simp [Covers, hsize]
  · simp [Covers, hsize]
  · -- Two narrow tokens stand side by side without a blank, as the letters of the wide one do.
    rw [render, List.map_cons, List.map_cons, hname, hname]
    rfl
  · rw [render, List.map_cons, hname]
    rfl

end Word
end LSystem
