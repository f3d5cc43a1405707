import LSystem.Proofs.Curve.Assembly
import LSystem.Proofs.Grammar.Loading
import LSystem.Proofs.Grammar.Steady
import LSystem.Proofs.Turtle.Repertoire
import LSystem.Ribbon

/-!
# Ribbons that can always be evaluated

Whether the evaluation of a ribbon fails may depend on its seed and on the number of its rounds. A
description is *steady* if it does not: its tokens are bound, its start word and its replacements
are balanced, and no rule replaces a bracket. This can be seen from the description alone. Its
grammar then is steady (`Loaded.isSteady`), since a loaded grammar says of every symbol what the
description says of its token, so all levels of an expansion are drawable. The rest cannot fail: a
drawable word has a trace, and curves are assembled from any trace.

`exists_evaluate` says this of every ribbon that is made of a steady description, with any seed, any
number of rounds and any width that curves can have.
-/

namespace LSystem

open Turtle

/-! ### Steady descriptions -/

namespace Description

/-- What the turtle does at a token. -/
def operation (d : Description) (name : String) : Operation := (d.meaning? name).getD .ignore

/-- A token that has a rule or a meaning. -/
def IsBound (d : Description) (name : String) : Prop :=
  (∃ rule ∈ d.rules, rule.symbol = name) ∨ (d.meaning? name).isSome = true

instance (d : Description) (name : String) : Decidable (d.IsBound name) :=
  inferInstanceAs
    (Decidable ((∃ rule ∈ d.rules, rule.symbol = name) ∨ (d.meaning? name).isSome = true))

/-- Bound tokens with balanced branches. -/
structure IsDrawable (d : Description) (names : List String) : Prop where
  isBound : ∀ name ∈ names, d.IsBound name
  balanced : Balanced (names.map d.operation)

instance (d : Description) (names : List String) : Decidable (d.IsDrawable names) :=
  decidable_of_iff ((∀ name ∈ names, d.IsBound name) ∧ Balanced (names.map d.operation))
    ⟨fun ⟨hbound, hbalanced⟩ => ⟨hbound, hbalanced⟩, fun h => ⟨h.isBound, h.balanced⟩⟩

/-- **A steady description:** the start word and all replacements are drawable, and no rule replaces
a bracket. -/
structure IsSteady (d : Description) : Prop where
  start : d.IsDrawable d.start.toList
  replacement : ∀ rule ∈ d.rules, d.IsDrawable rule.replacement.toList
  isNeutral : ∀ rule ∈ d.rules, (d.operation rule.symbol).IsNeutral

end Description

/-! ### From tokens to symbols -/

namespace Grammar.Loaded

variable {d : Description} {g : Grammar} {s : Symbol} {name : String}

/-- A symbol that stands for a token makes the turtle do what the token says. -/
theorem operation_eq (h : Loaded d g) (hname : g.symbols.name? s = some name) :
    (Repertoire.empty.setMeanings g).operation s = d.operation name := by
  rw [Repertoire.operation_setMeanings, h.meaning?_of_name? hname, Description.operation]

/-- A symbol that stands for a bound token is bound. -/
theorem isBound_of_name? (h : Loaded d g) (hname : g.symbols.name? s = some name)
    (hbound : d.IsBound name) : g.isBound s = true := by
  rw [isBound, Bool.or_eq_true]
  rcases hbound with ⟨rule, hrule, hsymbol⟩ | hmeaning
  · left
    obtain ⟨p, hp, -⟩ := exists_mem_right_of_forall₂ (h.forall₂_productions hname)
      (Description.mem_rulesFor.2 ⟨hrule, hsymbol⟩)
    rw [Option.isSome_iff_ne_none, ne_eq, ruleSet?_eq_none_iff]
    exact List.ne_nil_of_mem hp
  · right
    rw [h.meaning?_of_name? hname, hmeaning]

/-- Symbols that stand for drawable tokens are drawable. -/
theorem isDrawable_of_spells (h : Loaded d g) {w : Word} {names : List String}
    (hspells : g.symbols.Spells w names) (hnames : d.IsDrawable names) :
    g.IsDrawable (Repertoire.empty.setMeanings g) w := by
  have hcorrespond : List.Forall₂ (fun s name => g.symbols.name? s = some name) w names :=
    SymbolTable.spells_iff_forall₂.1 hspells
  -- Each symbol spells a token of the list, so what the tokens promise holds of the symbols.
  constructor
  · intro s hs
    obtain ⟨name, hmem, hname⟩ := exists_mem_right_of_forall₂ hcorrespond hs
    exact h.isBound_of_name? hname (hnames.isBound name hmem)
  · -- Token by token the operations are the same, so they are balanced together.
    have hops : w.map (Repertoire.empty.setMeanings g).operation = names.map d.operation :=
      map_eq_map_iff_forall₂.2 (hcorrespond.imp fun s name hname => h.operation_eq hname)
    rw [hops]
    exact hnames.balanced

/-- **The grammar of a steady description is steady.** -/
theorem isSteady (h : Loaded d g) (hsteady : d.IsSteady) :
    g.IsSteady (Repertoire.empty.setMeanings g) := by
  constructor
  · intro s p hp
    obtain ⟨rule, hrule, -, hspells⟩ := h.exists_rule_of_mem hp
    exact h.isDrawable_of_spells hspells (hsteady.replacement rule hrule)
  · intro s hne
    obtain ⟨p, hp⟩ := List.exists_mem_of_ne_nil _ hne
    obtain ⟨rule, hrule, hname, -⟩ := h.exists_rule_of_mem hp
    rw [h.operation_eq hname]
    exact hsteady.isNeutral rule hrule

/-- **The start word of a steady description can be expanded,** to a word that can be drawn. -/
theorem exists_expand (h : Loaded d g) (hsteady : d.IsSteady) (seed : UInt64)
    (generations : UInt32) :
    ∃ w, g.expand seed generations g.start = .ok w ∧
      g.IsDrawable (Repertoire.empty.setMeanings g) w := by
  have hstart := h.isDrawable_of_spells h.start_spells hsteady.start
  exact (h.isSteady hsteady).exists_expand hstart seed generations

end Grammar.Loaded

/-! ### Evaluation -/

namespace Ribbon

/-- What a ribbon is made of. -/
theorem ofDescription_eq_ok_iff {d : Description} {r : Ribbon} :
    ofDescription d = .ok r ↔
      d.turtle.validate = .ok () ∧ d.curve.validate = .ok () ∧
        ∃ g, Grammar.ofDescription d = .ok g ∧
          (⟨g, d.generations, d.seed, d.turtle, d.curve⟩ : Ribbon) = r := by
  rw [ofDescription]
  simp only [bind_eq_ok_iff, pure_eq_ok_iff]
  constructor
  · rintro ⟨_, hturtle, _, hcurve, hgrammar⟩
    exact ⟨hturtle, hcurve, hgrammar⟩
  · rintro ⟨hturtle, hcurve, hgrammar⟩
    exact ⟨(), hturtle, (), hcurve, hgrammar⟩

/-- A ribbon can be evaluated if its width is one that curves can have and its expansion has a
trace. -/
theorem evaluate_of_trace {r : Ribbon} (hwidth : r.curve.isValid = true) {w : Word}
    (hexpand : r.expand = .ok w) {t : Curve.Trace}
    (htrace : Turtle.trace r.turtle r.repertoire w = .ok t) :
    r.evaluate = .ok (Curve.assembled r.curve t) := by
  have hvalidate : r.curve.validate.mapError Error.malformed = .ok () := by
    rw [Curve.Settings.validate, if_pos hwidth]
    rfl
  rw [evaluate]
  exact bind_eq_ok_iff.2 ⟨(), hvalidate, bind_eq_ok_iff.2 ⟨w, hexpand,
    bind_eq_ok_iff.2 ⟨t, htrace, Curve.assemble_eq r.curve t⟩⟩⟩

/-- **A steady description can always be evaluated.** Neither the seed nor the number of rounds nor
a width that curves can have makes the evaluation of its ribbon fail. -/
theorem exists_evaluate {d : Description} {r : Ribbon} (h : ofDescription d = .ok r)
    (hsteady : d.IsSteady) (seed : UInt64) (generations : UInt32) {width : Float32}
    (hfinite : width.isFinite = true) (hnonneg : ¬ width < 0) :
    ∃ b, (((r.withSeed seed).withGenerations generations).withWidth width).evaluate = .ok b := by
  obtain ⟨-, -, g, hg, rfl⟩ := ofDescription_eq_ok_iff.1 h
  -- The start word can be expanded to a word that can be drawn, which has a trace.
  have hloaded := Grammar.loaded_of_ofDescription hg
  obtain ⟨w, hexpand, hw⟩ := hloaded.exists_expand hsteady seed generations
  obtain ⟨t, htrace⟩ := hw.exists_trace d.turtle
  -- The width is looked at before everything else, and it is one that curves can have.
  have hnot : decide (width < 0) = false := decide_eq_false hnonneg
  have hwidth : (⟨width⟩ : Curve.Settings).isValid = true := by
    rw [Curve.Settings.isValid, hfinite, hnot]
    rfl
  exact ⟨_,
    evaluate_of_trace (r := ⟨g, generations, seed, d.turtle, ⟨width⟩⟩) hwidth hexpand htrace⟩

/-- A plant whose shoots branch off to one side or the other. A shoot is drawn like a stem, and its
second rule is chosen more often. Round brackets are branches as square ones are, but the opening
square bracket is bound to something else, so that it may stand alone. -/
def plant : Description where
  start := .tokens ["[", "shoot"]
  rules := [
    { symbol := "shoot", replacement := .tokens ["F", "(", "+", "shoot", ")", "[", "shoot"] },
    { symbol := "shoot", replacement := .tokens ["F", "(", "-", "shoot", "]"], weight := 3 }]
  bindings := .ofList
    [("shoot", .forward), ("(", .branchStart), (")", .branchEnd), ("[", .roll 2)]

private theorem isLoadable_plant : Grammar.IsLoadable plant := by decide

private theorem isSteady_plant : plant.IsSteady := ⟨by decide, by decide, by decide⟩

/-- The plant can be evaluated after five rounds. -/
theorem exists_evaluate_plant :
    ∃ r, ofDescription plant = .ok r ∧ plant.IsSteady ∧ (2.5 : Float32).isFinite = true ∧
      ¬ (2.5 : Float32) < 0 ∧
      ∃ b, (((r.withSeed 7).withGenerations 5).withWidth 2.5).evaluate = .ok b := by
  obtain ⟨g, hg⟩ := isLoadable_plant.exists_ofDescription
  have h : ofDescription plant =
      .ok ⟨g, plant.generations, plant.seed, plant.turtle, plant.curve⟩ :=
    ofDescription_eq_ok_iff.2 ⟨rfl, rfl, g, hg, rfl⟩
  have hfinite : (2.5 : Float32).isFinite = true := rfl
  have hnonneg : ¬ (2.5 : Float32) < 0 := by decide
  exact ⟨_, h, isSteady_plant, hfinite, hnonneg,
    exists_evaluate h isSteady_plant 7 5 hfinite hnonneg⟩

end Ribbon

end LSystem
