import LSystem.Proofs.Grammar.Composition
import LSystem.Proofs.Grammar.Loading
import LSystem.Proofs.Grammar.Rendering

/-!
# Nothing is looked up in vain

An expansion looks things up by number: a production by its place among those of a symbol, and a
token by the number of its symbol. A look-up that finds nothing is not an error there. A choice
falls back on the first production, and an unknown number is written as a question mark. So what an
expansion gives does not show whether everything it looked up was there.

`Grammar.guardedExpand` is the expansion that looks where it reads: it has no outcome at all once a
place is out of range. In a grammar of any making this does happen, since a sampler whose weights
are all zero points behind the last production. In a grammar that has been loaded it does not. Every
rule has a weight that is not zero, so a sampler has shares to choose from, as many as there are
productions (`Loaded.isSampled`). Then each step of the guarded expansion does what the step of the
expansion does, and so does the whole (`Follows`), whatever word it starts from.

Tokens need a word of known symbols to start from. All symbols of the rules of a loaded grammar are
in its table, so every level consists of known symbols (`Expansion.forall_mem_level`), and with it
all that is written down or reported.
-/

namespace LSystem

open Chance Expansion

/-! ### Choices that look where they read -/

namespace RuleSet

/-- The place of the production that is chosen, and the generator after the choice. -/
def place (r : RuleSet) (rng : Generator) : Nat × Generator :=
  match r.sampler? with
  | none => (0, rng)
  | some sampler => sampler.sample rng

/-- **Chooses a production,** if there is one in the place that is chosen. -/
def choose? (r : RuleSet) (rng : Generator) : Option (Production × Generator) :=
  r.productions[(r.place rng).1]?.map fun p => (p, (r.place rng).2)

/-- **A rule set that is fit to choose from:** it has a production, it has a sampler if there is a
choice, with a share for each production, and what is chosen is one of its places. -/
structure IsSampled (r : RuleSet) : Prop where
  size_pos : 0 < r.productions.size
  isSome_sampler?_iff : r.sampler?.isSome ↔ 2 ≤ r.productions.size
  eq_ofWeights : ∀ sampler, r.sampler? = some sampler →
    sampler = .ofWeights (r.productions.toList.map (·.weight)) ∧
      sampler.size = r.productions.size
  place_lt : ∀ rng, (r.place rng).1 < r.productions.size

/-- A choice finds what it looks for in a rule set that is fit for it. -/
private theorem IsSampled.choose?_eq {r : RuleSet} (h : r.IsSampled) (rng : Generator) :
    r.choose? rng = some (r.choose rng) := by
  have hlt := h.place_lt rng
  rw [choose?, Array.getElem?_eq_getElem hlt, Option.map_some, choose]
  revert hlt
  rw [place]
  -- A single production is taken without drawing, and the sampler draws a place that is there.
  cases r.sampler? with
  | none => exact fun _ => rfl
  | some sampler =>
    intro hlt
    change (sampler.sample rng).1 < r.productions.size at hlt
    simp only [Array.getD_eq_getD_getElem?, Array.getElem?_eq_getElem hlt, Option.getD_some]

section

variable {r : RuleSet} {sampler : Sampler}

theorem isSome_sampler?_iff (r : RuleSet) : r.sampler?.isSome ↔ 2 ≤ r.productions.size := by
  rw [r.sampler?_eq, samplerFor?]
  split
  · next hlt => simpa using hlt
  · next hle => simpa using Nat.le_of_not_lt hle

theorem eq_ofWeights_of_sampler? (h : r.sampler? = some sampler) :
    sampler = .ofWeights (r.productions.toList.map (·.weight)) := by
  rw [r.sampler?_eq, samplerFor?] at h
  split at h
  · cases h
  · exact (Option.some.inj h).symm

/-- A sampler has a share for each production. -/
private theorem size_of_sampler? (h : r.sampler? = some sampler) :
    sampler.size = r.productions.size := by
  rw [eq_ofWeights_of_sampler? h, Sampler.size_ofWeights, List.length_map, Array.length_toList]

/-- The first weight is enough for something to draw from. -/
private theorem total_pos_of_weight_ne_zero (hweight : ∀ p ∈ r.productions.toList, p.weight ≠ 0)
    (h : r.sampler? = some sampler) : 0 < sampler.total := by
  rw [eq_ofWeights_of_sampler? h, Sampler.total_ofWeights]
  cases hlist : r.productions.toList with
  | nil => exact absurd hlist r.toList_productions_ne_nil
  | cons p ps =>
    have hp : p.weight ≠ 0 := hweight p (hlist ▸ List.mem_cons_self)
    have hpos : p.weight.toNat ≠ 0 := UInt32.toNat_inj.not.2 hp
    rw [List.map_cons, sumOf_cons]
    omega

/-- **A rule set is fit to choose from** if no weight is zero. -/
theorem isSampled_of_weight_ne_zero (h : ∀ p ∈ r.productions.toList, p.weight ≠ 0) :
    r.IsSampled where
  size_pos := r.size_pos
  isSome_sampler?_iff := r.isSome_sampler?_iff
  eq_ofWeights _ hs := ⟨eq_ofWeights_of_sampler? hs, size_of_sampler? hs⟩
  place_lt rng := by
    rw [place]
    cases hs : r.sampler? with
    | none => exact r.size_pos
    | some sampler =>
      rw [← size_of_sampler? hs]
      exact Sampler.sample_lt (total_pos_of_weight_ne_zero h hs) rng

end

/-- Two productions of weight zero leave nothing to choose, and the place is out of range. -/
example : (ofList ⟨[0], 0⟩ [⟨[1], 0⟩]).choose? (.ofSeed 0) = none := by cbv

end RuleSet

/-! ### Expansions that look where they read -/

namespace Expansion

/-- Steps of an expansion that have no outcome once they read out of range. -/
abbrev GuardedDraw := StateT Generator (ExceptT Error Option)

/-- What takes the place of a symbol in a round. -/
def guardedReplace (g : Grammar) (generation : Nat) (s : Symbol) : GuardedDraw Word :=
  match g.ruleSet? s with
  | some r => fun rng => ExceptT.mk ((r.choose? rng).map fun p => .ok (p.1.replacement, p.2))
  | none =>
    if g.isBound s then return [s] else throw (unboundError g generation s)

/-- One round. -/
def guardedRound (g : Grammar) (generation : Nat) (w : Word) : GuardedDraw Word := do
  let parts ← w.mapM (guardedReplace g generation)
  return parts.flatten

/-- The rounds that follow the first `generation` ones, `n` of them. -/
def guardedRounds (g : Grammar) : (n generation : Nat) → Word → GuardedDraw Word
  | 0, _, w => return w
  | n + 1, generation, w => do
    guardedRounds g n (generation + 1) (← guardedRound g (generation + 1) w)

end Expansion

/-- **An expansion that looks where it reads.** It has no outcome if it ever looks for a production
in a place where there is none. -/
def Grammar.guardedExpand (g : Grammar) (seed : UInt64) (generations : UInt32) (w : Word) :
    Option (Except Error Word) :=
  let n := generations.toNat
  ((Expansion.guardedRounds g n 0 w).run (.ofSeed seed)).run.map fun outcome => do
    let (w, _) ← outcome
    Expansion.check g n w
    return w

namespace Expansion

variable {α β : Type} {g : Grammar} {generation : Nat}

/-- A guarded computation that has an outcome, and the outcome of another one. -/
def Follows (x : GuardedDraw α) (y : Draw α) : Prop :=
  ∀ rng, (x.run rng).run = some (y.run rng)

theorem follows_pure (a : α) : Follows (pure a) (pure a) := fun _ => rfl

private theorem follows_throw (e : Error) : Follows (throw e : GuardedDraw α)
    (throw e) := fun _ => rfl

theorem Follows.bind {x : GuardedDraw α} {y : Draw α} {f : α → GuardedDraw β} {k : α → Draw β}
    (hxy : Follows x y) (hfk : ∀ a, Follows (f a) (k a)) : Follows (x >>= f) (y >>= k) := by
  intro rng
  rw [StateT.run_bind, StateT.run_bind, ExceptT.run_bind, hxy rng]
  cases y.run rng with
  | error e => rfl
  | ok p => exact hfk p.1 p.2

theorem Follows.mapM {f : Symbol → GuardedDraw α} {k : Symbol → Draw α}
    (hfk : ∀ s, Follows (f s) (k s)) (w : Word) : Follows (w.mapM f) (w.mapM k) := by
  induction w with
  | nil => exact follows_pure []
  | cons s w ih =>
    rw [List.mapM_cons, List.mapM_cons]
    exact (hfk s).bind fun a => ih.bind fun as => follows_pure (a :: as)

variable (hg : ∀ s r, g.ruleSet? s = some r → r.IsSampled)
include hg

private theorem follows_guardedReplace (s : Symbol) :
    Follows (guardedReplace g generation s) (replace g generation s) := by
  rw [guardedReplace, replace]
  -- The guard is about the draw only, and a symbol without rules draws nothing.
  cases hr : g.ruleSet? s with
  | some r =>
    intro rng
    change (r.choose? rng).map _ = _
    rw [(hg s r hr).choose?_eq]
    rfl
  | none =>
    by_cases hs : g.isBound s = true
    · simp only [if_pos hs]
      exact follows_pure [s]
    · simp only [if_neg hs]
      exact follows_throw (unboundError g generation s)

private theorem follows_guardedRounds (n : Nat) (w : Word) :
    Follows (guardedRounds g n generation w) (rounds g n generation w) := by
  induction n generalizing generation w with
  | zero => exact follows_pure w
  | succ n ih =>
    have hround : Follows (guardedRound g (generation + 1) w) (round g (generation + 1) w) :=
      (Follows.mapM (follows_guardedReplace hg) w).bind fun parts => follows_pure parts.flatten
    exact hround.bind fun w' => ih w'

/-- **The guarded expansion is the expansion,** if all rule sets are fit to choose from. -/
theorem guardedExpand_eq (seed : UInt64) (generations : UInt32) (w : Word) :
    g.guardedExpand seed generations w = some (g.expand seed generations w) := by
  rw [Grammar.guardedExpand, Grammar.expand, follows_guardedRounds hg]
  rfl

end Expansion

/-! ### Rounds that come to their end -/

namespace Expansion

variable {g : Grammar} {rng : Generator} {w : Word}

/-- What rounds lead to is a level. -/
theorem level_of_run_rounds {n generation : Nat} {p : Word × Generator}
    (h : (rounds g n generation w).run rng = .ok p) : level g (w, rng) n = p := by
  rcases bound_or_exists_unbound g (w, rng) n with hbound | ⟨k, hk, s, hbefore, hs⟩
  · rw [run_rounds_of_bound generation fun k hk => hbound k (Nat.le_of_lt hk)] at h
    exact Except.ok.inj h
  · rcases Nat.lt_or_eq_of_le hk with hlt | rfl
    · rw [run_rounds_of_unbound generation hlt hbefore hs] at h
      cases h
    · -- Nothing is unbound before the last level, and that is not looked at by the rounds.
      rw [run_rounds_of_bound generation hbefore] at h
      exact Except.ok.inj h

end Expansion

/-! ### Loaded grammars -/

/-- The symbols that stand for tokens are numbers of the table. -/
theorem SymbolTable.Spells.covers {t : SymbolTable} {w : Word} {texts : List String}
    (h : t.Spells w texts) : t.Covers w := by
  intro s hs
  obtain ⟨text, -, hname⟩ := h.exists_name? hs
  exact lt_of_name? hname

/-- Words that are spelled by tokens are written with these tokens. -/
theorem Word.render_of_spells {t : SymbolTable} {w : Word} {tokens : List String}
    (h : t.Spells w tokens) : w.render t = writeOnto "" false tokens := by
  have htokens : w.map (tokenOf t) = tokens := by
    rw [← List.map_inj_right (f := some) fun _ _ => Option.some.inj, List.map_map, ← h]
    exact List.map_congr_left fun s hs => (name?_of_lt (h.covers s hs)).symm
  rw [render, htokens]

namespace Grammar.Loaded

variable {d : Description} {g : Grammar} {s : Symbol}

/-- No production of a loaded grammar has a weight of zero. -/
theorem weight_ne_zero (h : Loaded d g) {p : Production} (hp : p ∈ g.productions s) :
    p.weight ≠ 0 := by
  cases hname : g.symbols.name? s with
  | none =>
    rw [h.productions_of_name?_eq_none hname] at hp
    cases hp
  | some name =>
    obtain ⟨rule, hrule, -, hweight⟩ :=
      exists_mem_left_of_forall₂ (h.forall₂_productions hname) hp
    rw [hweight]
    exact (h.isUsable rule (Description.mem_rulesFor.1 hrule).1).2

/-- **All rule sets of a loaded grammar are fit to choose from.** -/
theorem isSampled (h : Loaded d g) {r : RuleSet} (hr : g.ruleSet? s = some r) : r.IsSampled := by
  apply RuleSet.isSampled_of_weight_ne_zero
  intro p hp
  have hproductions : g.productions s = r.productions.toList := by
    rw [productions, hr]
  exact h.weight_ne_zero (s := s) (hproductions ▸ hp)

/-- The names in the table of a loaded grammar are tokens. -/
theorem isToken_of_name? (h : Loaded d g) {token : String}
    (hs : g.symbols.name? s = some token) : SymbolTable.isToken token = true := by
  have hmem := SymbolTable.mem_toList_of_name? hs
  rw [h.enrolled.toList_eq, SymbolTable.mem_enroll] at hmem
  rcases hmem with hnil | htoken
  · cases hnil
  · exact h.enrolled.isToken token htoken

/-- A word of numbers of the table is spelled by tokens. -/
theorem exists_spells (h : Loaded d g) {w : Word} (hw : g.symbols.Covers w) :
    ∃ tokens, g.symbols.Spells w tokens ∧ ∀ token ∈ tokens, SymbolTable.isToken token = true := by
  have hspells : g.symbols.Spells w (w.map (Word.tokenOf g.symbols)) := by
    rw [SymbolTable.Spells, List.map_map]
    exact List.map_congr_left fun s hs => Word.name?_of_lt (hw s hs)
  refine ⟨_, hspells, List.forall_mem_map.2 fun s hs => ?_⟩
  exact h.isToken_of_name? (Word.name?_of_lt (hw s hs))

/-- **Every level of a word of known symbols consists of known symbols.** -/
theorem covers_level (h : Loaded d g) {w : Word} (hw : g.symbols.Covers w) (rng : Generator)
    (k : Nat) : g.symbols.Covers (level g (w, rng) k).1 := by
  refine forall_mem_level hw (fun s _ p hp => ?_) rng k
  obtain ⟨rule, -, -, hspells⟩ := h.exists_rule_of_mem hp
  exact hspells.covers

end Grammar.Loaded

namespace Grammar

/-- **Loading leaves nothing to be looked up in vain.** The rule sets of a loaded grammar are fit to
choose from, so the expansion that looks where it reads is the expansion, from any word. Its start
word consists of symbols of the table. From a word of such symbols, each level and what the
expansion gives consist of them again and are written with tokens, and an error names a token. -/
theorem inRange_of_ofDescription {d : Description} {g : Grammar} (h : ofDescription d = .ok g) :
    (∀ s r, g.ruleSet? s = some r → r.IsSampled) ∧
    (∀ seed generations w,
      g.guardedExpand seed generations w = some (g.expand seed generations w)) ∧
    g.symbols.Covers g.start ∧
    ∀ w, g.symbols.Covers w → ∀ seed generations,
      (∀ k p, (rounds g k 0 w).run (.ofSeed seed) = .ok p → g.symbols.Covers p.1) ∧
      (∀ c, g.expand seed generations w = .ok c → g.symbols.Covers c ∧
        ∃ tokens, g.symbols.Spells c tokens ∧
          (∀ token ∈ tokens, SymbolTable.isToken token = true) ∧
          c.render g.symbols = Word.writeOnto "" false tokens) ∧
      ∀ e, g.expand seed generations w = .error e →
        ∃ s token generation, e = .unbound token generation ∧ g.symbols.name? s = some token ∧
          SymbolTable.isToken token = true := by
  have hloaded := loaded_of_ofDescription h
  have hsampled : ∀ s r, g.ruleSet? s = some r → r.IsSampled := fun _ _ hr => hloaded.isSampled hr
  refine ⟨hsampled, guardedExpand_eq hsampled, hloaded.start_spells.covers,
    fun w hw seed generations => ⟨fun k p hp => ?_, fun c hc => ?_, fun e he => ?_⟩⟩
  · rw [← level_of_run_rounds hp]
    exact hloaded.covers_level hw _ k
  · -- What an expansion gives is its last level, and the levels stay in the table.
    obtain ⟨-, rfl⟩ := expand_eq_ok_iff.1 hc
    have hcovers := hloaded.covers_level hw (.ofSeed seed) generations.toNat
    obtain ⟨tokens, hspells, htokens⟩ := hloaded.exists_spells hcovers
    exact ⟨hcovers, tokens, hspells, htokens, Word.render_of_spells hspells⟩
  · -- The symbol that is reported stands on a level.
    obtain ⟨k, -, s, hfails, rfl⟩ := exists_failsAt he
    have hmem : s ∈ (level g (w, .ofSeed seed) k).1 := List.mem_of_find?_eq_some hfails.symbol
    have hname := Word.name?_of_lt (hloaded.covers_level hw (.ofSeed seed) k s hmem)
    refine ⟨s, _, min (k + 1) generations.toNat, ?_, hname, hloaded.isToken_of_name? hname⟩
    rw [unboundError, hname, Option.getD_some]

/-- A coppice that grows from its stool until it bears a gall, of which nothing is known. -/
def coppice : Description where
  start := .tokens ["Stool", "F", "Stool"]
  rules :=
    [{ symbol := "Stool", replacement := .tokens ["F", "[", "+", "Stool", "]"], weight := 3 },
      { symbol := "Stool", replacement := .tokens ["F", "Gall"] }]

/-- Whichever way the coppice grows, all that it reads is there, and it comes to a word of symbols
of its table or to an error about a token. -/
theorem inRange_coppice :
    ∃ g, ofDescription coppice = .ok g ∧ ∀ seed generations,
      g.guardedExpand seed generations g.start = some (g.expand seed generations g.start) ∧
      ((∃ c, g.expand seed generations g.start = .ok c ∧ g.symbols.Covers c) ∨
        ∃ s token generation,
          g.expand seed generations g.start = .error (.unbound token generation) ∧
          g.symbols.name? s = some token ∧ SymbolTable.isToken token = true) := by
  obtain ⟨g, hg⟩ := exists_ofDescription_iff.2 (show IsLoadable coppice by decide +kernel)
  obtain ⟨-, hguarded, hstart, hcovered⟩ := inRange_of_ofDescription hg
  refine ⟨g, hg, fun seed generations => ⟨hguarded seed generations g.start, ?_⟩⟩
  obtain ⟨-, hok, herror⟩ := hcovered g.start hstart seed generations
  cases hexpand : g.expand seed generations g.start with
  | ok c => exact .inl ⟨c, rfl, (hok c hexpand).1⟩
  | error e =>
    obtain ⟨s, token, generation, rfl, hname, htoken⟩ := herror e hexpand
    exact .inr ⟨s, token, generation, rfl, hname, htoken⟩

end Grammar

end LSystem
