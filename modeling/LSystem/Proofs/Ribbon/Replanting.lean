import LSystem.Proofs.Grammar.Rendering
import LSystem.Proofs.Grammar.Resumption
import LSystem.Proofs.Ribbon.Loading
import LSystem.Proofs.Ribbon.Presentation
import LSystem.Proofs.Turtle.Walk

/-!
# Ribbons that are planted again

What a ribbon has grown to can be written into its description in place of the start word. Where
all tokens of words are single characters, the text of a word is the characters of its tokens, and
as a start word every character is a token again, so nothing is lost on the way
(`toList_text_of_narrow`).

The description stays one that can be loaded, since a word that comes out of rules has no tokens but
those of the start word and of the replacements (`Loaded.isWritten_of_expand`). Its tokens may get
other numbers. But it says the same of every token as the description before, so the grammars
simulate each other, and the new start word corresponds to the word that has been written down. From
there on it is a matter of words only: the new ribbon does what the first one would do if its
expansion were resumed (`Expansion.expand_resume`).
-/

namespace LSystem

/-! ### Descriptions with another start word -/

namespace Description

/-- The description with a text as its start word, and with other numbers of rounds and seeds. -/
def replant (d : Description) (text : String) (generations : UInt32) (seed : UInt64) :
    Description :=
  { d with start := .text text, generations, seed }

/-- **A description of narrow words:** all tokens of the start word and of the replacements are
single characters. -/
structure IsNarrow (d : Description) : Prop where
  start : ∀ token ∈ d.start.toList, token.length = 1
  replacement : ∀ rule ∈ d.rules, ∀ token ∈ rule.replacement.toList, token.length = 1

/-- A token of the start word or of a replacement. -/
def IsWritten (d : Description) (name : String) : Prop :=
  name ∈ d.start.toList ∨ ∃ rule ∈ d.rules, name ∈ rule.replacement.toList

variable {d : Description} {name : String}

private theorem IsNarrow.length_eq (h : d.IsNarrow) (hname : d.IsWritten name) :
    name.length = 1 := by
  rcases hname with hstart | ⟨rule, hrule, hreplacement⟩
  · exact h.start name hstart
  · exact h.replacement rule hrule name hreplacement

theorem IsWritten.mem_tokens (h : d.IsWritten name) : name ∈ d.tokens := by
  rw [tokens, List.mem_append, List.mem_append]
  rcases h with hstart | ⟨rule, hrule, hreplacement⟩
  · exact .inl (.inr hstart)
  · exact .inr (List.mem_flatMap.2 ⟨rule, hrule, List.mem_cons_of_mem _ hreplacement⟩)

/-- Nothing that is said of a token depends on the start word. -/
private theorem sameSystem_replant (d : Description) (text : String) (generations : UInt32)
    (seed : UInt64) : d.SameSystem (d.replant text generations seed) :=
  ⟨fun _ => rfl, fun _ => ⟨rfl, fun _ => rfl⟩⟩

/-- **A description can be replanted** with tokens that it has. -/
theorem isLoadable_replant (h : Grammar.IsLoadable d) {text : String}
    (hne : (TokenList.text text).toList ≠ [])
    (htokens : ∀ token ∈ (TokenList.text text).toList, token ∈ d.tokens) (generations : UInt32)
    (seed : UInt64) : Grammar.IsLoadable (d.replant text generations seed) := by
  -- The new start brings no token of its own, and nothing else is checked of it but that it is
  -- there.
  have hsubset : ∀ token ∈ (d.replant text generations seed).tokens, token ∈ d.tokens := by
    have hall : ∀ token ∈ d.tokens, token ∈ d.tokens := fun _ htoken => htoken
    obtain ⟨hstandard, hkeys, -, hrules⟩ := forall_mem_tokens.1 hall
    exact forall_mem_tokens.2 ⟨hstandard, hkeys, htokens, hrules⟩
  have hcard : (d.replant text generations seed).tokens.toFinset.card ≤ d.tokens.toFinset.card :=
    Finset.card_le_card fun token htoken => by
      rw [List.mem_toFinset] at htoken ⊢
      exact hsubset token htoken
  have hlength := h.admits.length_le
  rw [length_enroll_tokens] at hlength
  exact
    { admits :=
        { isToken := fun token htoken => h.admits.isToken token (hsubset token htoken)
          length_le := by
            rw [length_enroll_tokens]
            exact Nat.le_trans hcard hlength }
      start_ne_nil := hne
      isUsable := h.isUsable
      weightFor_le := h.weightFor_le }

end Description

/-! ### Texts as start words -/

/-- Single characters that are tokens can be read back from a text in which nothing is between
them. -/
theorem toList_text_of_narrow {tokens : List String} {text : String}
    (htokens : ∀ token ∈ tokens, SymbolTable.isToken token)
    (hnarrow : ∀ token ∈ tokens, token.length = 1)
    (htext : text.toList = tokens.flatMap String.toList) :
    (TokenList.text text).toList = tokens := by
  rw [TokenList.toList, htext]
  clear htext
  -- Tokens of one character are what the text is read as, one character each.
  induction tokens with
  | nil => rfl
  | cons token tokens ih =>
    obtain ⟨htoken, hothers⟩ := List.forall_mem_cons.1 htokens
    obtain ⟨hlength, hothers'⟩ := List.forall_mem_cons.1 hnarrow
    have hwide : Word.isWide token = false := by
      rw [Word.isWide, hlength]
      rfl
    obtain ⟨c, rfl⟩ := Word.exists_eq_singleton htoken hwide
    have hblank : Text.isBlank c = false := Word.isBlank_of_isToken htoken (by simp)
    rw [List.flatMap_cons, String.toList_singleton, List.singleton_append,
      List.filter_cons_of_pos (by simp [hblank]), List.map_cons, ih hothers hothers']

/-! ### Words that have grown -/

namespace Grammar.Loaded

variable {d : Description} {g : Grammar} {c : Word} {seed : UInt64} {generations : UInt32}

/-- **A word that has grown consists of tokens that are written** in the start word or in a
replacement. -/
theorem isWritten_of_expand (h : Loaded d g) (hc : g.expand seed generations g.start = .ok c) :
    ∀ s ∈ c, ∃ name, g.symbols.name? s = some name ∧ d.IsWritten name := by
  obtain ⟨-, rfl⟩ := Expansion.expand_eq_ok_iff.1 hc
  refine Expansion.forall_mem_level ?_ ?_ _ _
  · intro s hs
    obtain ⟨name, hmem, hname⟩ := h.start_spells.exists_name? hs
    exact ⟨name, hname, .inl hmem⟩
  · intro s _ p hp s' hs'
    obtain ⟨rule, hrule, -, hspells⟩ := h.exists_rule_of_mem hp
    obtain ⟨name, hmem, hname⟩ := hspells.exists_name? hs'
    exact ⟨name, hname, .inr ⟨rule, hrule, hmem⟩⟩

/-- A word that has grown is not empty. -/
private theorem ne_nil_of_expand (h : Loaded d g) (hc : g.expand seed generations g.start = .ok c) :
    c ≠ [] := by
  obtain ⟨-, rfl⟩ := Expansion.expand_eq_ok_iff.1 hc
  exact Expansion.level_ne_nil h.start_ne_nil (fun _ _ hp => h.replacement_ne_nil hp) _ _

/-- **The text of a word that has grown is read as the tokens of the word,** if these are single
characters. -/
theorem spells_text_of_expand (h : Loaded d g) (hnarrow : d.IsNarrow)
    (hc : g.expand seed generations g.start = .ok c) :
    g.symbols.Spells c (TokenList.text (c.render g.symbols)).toList ∧
      ∀ token ∈ (TokenList.text (c.render g.symbols)).toList, d.IsWritten token := by
  -- Every symbol of the word has a name that the description writes, and a narrow one.
  have hname : ∀ s ∈ c, g.symbols.name? s = some (Word.tokenOf g.symbols s) ∧
      d.IsWritten (Word.tokenOf g.symbols s) := by
    intro s hs
    obtain ⟨name, hname, hwritten⟩ := h.isWritten_of_expand hc s hs
    have htoken : Word.tokenOf g.symbols s = name := by rw [Word.tokenOf, hname, Option.getD_some]
    rw [htoken]
    exact ⟨hname, hwritten⟩
  have hwritten : ∀ token ∈ c.map (Word.tokenOf g.symbols), d.IsWritten token :=
    List.forall_mem_map.2 fun s hs => (hname s hs).2
  have hlength : ∀ token ∈ c.map (Word.tokenOf g.symbols), token.length = 1 :=
    fun token htoken => hnarrow.length_eq (hwritten token htoken)
  have htext : (c.render g.symbols).toList =
      (c.map (Word.tokenOf g.symbols)).flatMap String.toList := by
    refine Word.toList_writeOnto_of_narrow "" fun token htoken => ?_
    rw [Word.isWide, hlength token htoken]
    rfl
  have hread := toList_text_of_narrow
    (fun token htoken => h.enrolled.isToken token (hwritten token htoken).mem_tokens) hlength htext
  rw [hread]
  refine ⟨?_, hwritten⟩
  rw [SymbolTable.Spells, List.map_map]
  exact List.map_congr_left fun s hs => (hname s hs).1

end Grammar.Loaded

/-! ### Errors -/

/-- No other error counts rounds. -/
private theorem Turtle.mapError_later_walkFrom (rounds : Nat) (settings : Settings) (position : Nat)
    (s : State) (ops : List Operation) :
    (walkFrom settings position s ops).mapError (Error.later rounds) =
      walkFrom settings position s ops := by
  induction ops generalizing position s with
  | nil => rfl
  | cons op ops ih =>
    rw [walkFrom]
    split
    · exact ih _ _
    · rfl

private theorem Turtle.mapError_later_walk (rounds : Nat) (settings : Settings)
    (ops : List Operation) :
    (walk settings ops).mapError (Error.later rounds) = walk settings ops := by
  unfold walk
  rw [mapError_bind, mapError_later_walkFrom]
  refine congrArg _ (funext fun s => ?_)
  split <;> rfl

namespace Ribbon

/-! ### Results -/

variable {r r' : Ribbon}

/-- **Two ribbons whose expansions correspond,** up to the round that is counted. -/
theorem results_eq_of_resumed {n : Nat} {R : Symbol → Symbol → Prop}
    (hsim : r.grammar.Simulates r'.grammar R) (hturtle : r.turtle = r'.turtle)
    (hcurve : r.curve = r'.curve) {x : Except Error Word}
    (hr : r.expand = x.mapError (.later n)) (hr' : SameOutcome (List.Forall₂ R) x r'.expand) :
    r.commandText = r'.commandText.mapError (.later n) ∧
      r.evaluate = r'.evaluate.mapError (.later n) := by
  have hexpand := hr'.mapError (Error.later n)
  rw [← hr] at hexpand
  constructor
  · unfold commandText
    rw [mapError_bind]
    refine hexpand.bind_eq fun w w' hw => ?_
    rw [hsim.render_eq hw]
    rfl
  · -- All that can fail apart from the expansion fails with other errors.
    have hvalidate : (r'.curve.validate.mapError Error.malformed).mapError (.later n) =
        r'.curve.validate.mapError Error.malformed := by
      cases r'.curve.validate <;> rfl
    unfold evaluate
    rw [mapError_bind, hvalidate, hcurve]
    refine congrArg _ (funext fun _ => ?_)
    rw [mapError_bind]
    refine hexpand.bind_eq fun w w' hw => ?_
    unfold repertoire
    rw [mapError_bind, hsim.trace_eq hw, hturtle, Turtle.trace, Turtle.mapError_later_walk]
    refine congrArg _ (funext fun t => ?_)
    rw [Curve.assemble_eq]
    rfl

/-- **A ribbon can be planted again.** If all tokens of words are single characters, what a ribbon
has grown to can be the start word of its description. The ribbon of that description gives after
`m` rounds what the first one gives after `m` more rounds, if there are no more rounds or if no
token has two rules: the same text, the same curves, or the same error, in which the rounds of the
first ribbon are counted as well. -/
theorem results_of_replanted {d : Description} {r : Ribbon} {text : String}
    (h : ofDescription d = .ok r) (hnarrow : d.IsNarrow) (htext : r.commandText = .ok text)
    {m : UInt32}
    (hm : m = 0 ∨ (∀ name, (d.rulesFor name).length ≤ 1) ∧
      d.generations.toNat + m.toNat ≤ 4294967295) (seed : UInt64) :
    ∃ r' r'', ofDescription (d.replant text m seed) = .ok r' ∧
      ofDescription { d with generations := d.generations + m } = .ok r'' ∧
      r''.commandText = r'.commandText.mapError (.later d.generations.toNat) ∧
      r''.evaluate = r'.evaluate.mapError (.later d.generations.toNat) := by
  obtain ⟨hturtle, hcurve, g, hg, rfl⟩ := ofDescription_eq_ok_iff.1 h
  have hloaded := Grammar.loaded_of_ofDescription hg
  unfold commandText expand at htext
  obtain ⟨c, hc, hrender⟩ := bind_eq_ok_iff.1 htext
  obtain rfl := pure_eq_ok_iff.1 hrender
  -- The text is read as the word that it has been written from, token by token.
  obtain ⟨hspells, hwritten⟩ := hloaded.spells_text_of_expand hnarrow hc
  have hne := mt hspells.eq_nil_iff.2 (hloaded.ne_nil_of_expand hc)
  obtain ⟨g', hg'⟩ := (Description.isLoadable_replant hloaded.isLoadable hne
    (fun token htoken => (hwritten token htoken).mem_tokens) m seed).exists_ofDescription
  have hloaded' := Grammar.loaded_of_ofDescription hg'
  have hsim := hloaded.simulates_of_sameSystem hloaded' (d.sameSystem_replant _ m seed)
  have hstart : List.Forall₂ (g.symbols.SameToken g'.symbols) c g'.start :=
    hspells.sameToken hloaded'.start_spells
  have hrounds : m = 0 ∨ (∀ s, (g.productions s).length < 2) ∧
      d.generations.toNat + m.toNat < UInt32.size :=
    hm.imp_right fun ⟨hrules, hsum⟩ =>
      ⟨hloaded.length_productions_lt hrules, Nat.lt_succ_of_le hsum⟩
  refine ⟨⟨g', m, seed, d.turtle, d.curve⟩, ⟨g, d.generations + m, d.seed, d.turtle, d.curve⟩,
    ofDescription_eq_ok_iff.2 ⟨hturtle, hcurve, g', hg', rfl⟩,
    ofDescription_eq_ok_iff.2 ⟨hturtle, hcurve, g, hg, rfl⟩, ?_⟩
  exact results_eq_of_resumed hsim rfl rfl (Expansion.expand_resume hrounds hc seed)
    (hsim.sameOutcome_expand hstart seed m)

/-- The ribbon of a steady description has a text. -/
private theorem exists_commandText {d : Description} {r : Ribbon} (h : ofDescription d = .ok r)
    (hsteady : d.IsSteady) : ∃ text, r.commandText = .ok text := by
  obtain ⟨-, -, g, hg, rfl⟩ := ofDescription_eq_ok_iff.1 h
  have hloaded := Grammar.loaded_of_ofDescription hg
  obtain ⟨w, hexpand, -⟩ := hloaded.exists_expand hsteady d.seed d.generations
  exact ⟨w.render g.symbols, bind_eq_ok_iff.2 ⟨w, hexpand, rfl⟩⟩

/-- A vine that has one way to grow. -/
def vine : Description where
  start := .text "+A"
  rules := [
    { symbol := "A", replacement := .text "F[-A]B" },
    { symbol := "B", replacement := .text "+ F B", weight := 3 }]
  generations := 2

/-- The vine grows on for three rounds from what it has grown to in two. -/
theorem results_of_replanted_vine :
    ∃ r text, ofDescription vine = .ok r ∧ vine.IsNarrow ∧ r.commandText = .ok text ∧
      (∀ name, (vine.rulesFor name).length ≤ 1) ∧
      ∃ r' r'', ofDescription (vine.replant text 3 vine.seed) = .ok r' ∧
        ofDescription { vine with generations := 5 } = .ok r'' ∧
        r''.commandText = r'.commandText.mapError (.later 2) ∧
        r''.evaluate = r'.evaluate.mapError (.later 2) := by
  have hload : Grammar.IsLoadable vine := by decide +kernel
  have hsteady : vine.IsSteady :=
    ⟨by decide +kernel, by decide +kernel, by decide +kernel⟩
  have hnarrow : vine.IsNarrow := ⟨by decide +kernel, by decide +kernel⟩
  -- One rule at most for each symbol leaves nothing to the seed.
  have hrules : ∀ name, (vine.rulesFor name).length ≤ 1 := by
    intro name
    rw [Description.rulesFor, vine, List.filter_cons, List.filter_singleton]
    grind
  obtain ⟨g, hg⟩ := hload.exists_ofDescription
  have h : ofDescription vine = .ok ⟨g, 2, 0, vine.turtle, vine.curve⟩ :=
    ofDescription_eq_ok_iff.2 ⟨rfl, rfl, g, hg, rfl⟩
  obtain ⟨text, htext⟩ := exists_commandText h hsteady
  exact ⟨_, text, h, hnarrow, htext, hrules,
    results_of_replanted h hnarrow htext (.inr ⟨hrules, by decide⟩) vine.seed⟩

end Ribbon

end LSystem
