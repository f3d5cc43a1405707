import LSystem.Description.Json
import LSystem.Proofs.Description.Bindings
import LSystem.Proofs.Ribbon.Loading

/-!
# The numbers that a turtle is given

A turtle computes with the numbers of its settings and with the factors of the operations in its
repertoire (`Ribbon.IsParameter`). A setting that is not finite keeps a description from being
loaded. With factors it depends on where they come from. Those of the conventional operations are
finite, and those that a description binds are not looked at by anyone. A symbol of a loaded grammar
means what its token was bound to, or else what it means by convention, so there is no third source,
and a factor that is not finite can only be one that the description has bound
(`Grammar.Loaded.mem_bindings_of_meaning?`). Conversely all that a description binds gets into the
repertoire (`Grammar.Loaded.exists_meaning?_eq`).

Hence all numbers that the turtle of a loaded ribbon is given are finite exactly if the factors in
the bindings of its description are (`isFinite_parameters_iff`). They need not be, because a reader
takes a numeral beyond the greatest single for infinity (`exists_infinite_parameter`).
-/

namespace LSystem

open Turtle

/-! ### Factors -/

namespace Turtle.Operation

/-- The number that an operation multiplies the angle of the settings by. -/
def factor? : Operation → Option Float32
  | yaw x | pitch x | roll x => some x
  | _ => none

/-- An operation whose factor is finite, if it has one. -/
def IsFinite (op : Operation) : Prop := ∀ x, op.factor? = some x → x.isFinite = true

instance (op : Operation) : Decidable op.IsFinite :=
  decidable_of_iff (op.factor?.all Float32.isFinite = true) (Option.all_eq_true _ _)

private theorem isFinite_standard : ∀ pair ∈ standard, pair.2.IsFinite := by decide

end Turtle.Operation

/-! ### What a symbol is bound to -/

namespace Grammar.Loaded

variable {d : Description} {g : Grammar}

/-- **An operation that is not finite has been bound by the description.** -/
theorem mem_bindings_of_meaning? (h : Loaded d g) {s : Symbol} {op : Operation}
    (hmeaning : g.meaning? s = some op) (hop : ¬ op.IsFinite) :
    ∃ token, g.symbols.name? s = some token ∧ (token, op) ∈ d.bindings.toList := by
  rw [h.meaning?_eq, Option.bind_eq_some_iff] at hmeaning
  obtain ⟨token, hname, hmeaning⟩ := hmeaning
  refine ⟨token, hname, ?_⟩
  rw [Description.meaning?, Option.or_eq_some_iff] at hmeaning
  rcases hmeaning with hbound | ⟨-, hstandard⟩
  · exact Bindings.get?_eq_some_iff.1 hbound
  · exact absurd (Operation.isFinite_standard _ (mem_of_lookup_eq_some hstandard)) hop

/-- What a description binds is the meaning of a symbol. -/
theorem exists_meaning?_eq (h : Loaded d g) {token : String} {op : Operation}
    (hmem : (token, op) ∈ d.bindings.toList) : ∃ s, g.meaning? s = some op := by
  have htoken : token ∈ d.tokens := by
    have hall : ∀ name ∈ d.tokens, name ∈ d.tokens := fun _ hname => hname
    exact (Description.forall_mem_tokens.1 hall).2.1 (token, op) hmem
  obtain ⟨s, hname⟩ := SymbolTable.exists_name?_of_mem (h.enrolled.mem_toList htoken)
  refine ⟨s, ?_⟩
  rw [h.meaning?_of_name? hname, Description.meaning?, Bindings.get?_eq_some_iff.2 hmem]
  rfl

end Grammar.Loaded

/-! ### Parameters -/

namespace Ribbon

/-- **A number that the turtle of a ribbon is given:** one of its settings, or the factor of an
operation of its repertoire. -/
inductive IsParameter (r : Ribbon) : Float32 → Prop
  | step : r.IsParameter r.turtle.step
  | angle : r.IsParameter r.turtle.angle
  | lengthFactor : r.IsParameter r.turtle.lengthFactor
  | factor {s : Symbol} {x : Float32} (h : (r.repertoire.operation s).factor? = some x) :
      r.IsParameter x

variable {d : Description} {r : Ribbon}

/-- What a symbol means is in the repertoire. -/
theorem operation_of_meaning? {s : Symbol} {op : Operation} (h : r.grammar.meaning? s = some op) :
    r.repertoire.operation s = op := by
  rw [repertoire, Repertoire.operation_setMeanings, h, Option.getD_some]

/-- An operation with a factor is the meaning of its symbol. -/
private theorem meaning?_of_factor? {s : Symbol} {x : Float32}
    (h : (r.repertoire.operation s).factor? = some x) :
    r.grammar.meaning? s = some (r.repertoire.operation s) := by
  rw [repertoire, Repertoire.operation_setMeanings] at h ⊢
  cases hmeaning : r.grammar.meaning? s with
  | some op => rfl
  | none =>
    -- What means nothing is ignored, and that takes no factor.
    rw [hmeaning] at h
    cases h

/-- **Only the bindings of a description can be infinite.** The settings of a ribbon that has been
loaded are finite. If a symbol of its grammar means an operation with a factor that is not, then the
description has bound the token of the symbol to it. All numbers that the turtle is given are finite
exactly if all operations that the description binds are. -/
theorem isFinite_parameters_iff (h : ofDescription d = .ok r) :
    (r.turtle.step.isFinite = true ∧ r.turtle.angle.isFinite = true ∧
      r.turtle.lengthFactor.isFinite = true) ∧
    (∀ s op, r.grammar.meaning? s = some op → ¬ op.IsFinite →
      ∃ token, r.grammar.symbols.name? s = some token ∧ (token, op) ∈ d.bindings.toList) ∧
    ((∀ x, r.IsParameter x → x.isFinite = true) ↔
      ∀ pair ∈ d.bindings.toList, pair.2.IsFinite) := by
  obtain ⟨hturtle, -, g, hg, rfl⟩ := ofDescription_eq_ok_iff.1 h
  have hloaded := Grammar.loaded_of_ofDescription hg
  have hsettings := Settings.validate_eq_ok_iff.1 hturtle
  simp only [Settings.toList, List.forall_mem_cons] at hsettings
  obtain ⟨hstep, hangle, hlength, -⟩ := hsettings
  refine ⟨⟨hstep, hangle, hlength⟩,
    fun s op hmeaning hop => hloaded.mem_bindings_of_meaning? hmeaning hop, ?_⟩
  constructor
  · rintro hall ⟨token, op⟩ hmem x hx
    -- What is bound is in the repertoire, so its factor is a parameter.
    obtain ⟨s, hmeaning⟩ := hloaded.exists_meaning?_eq hmem
    apply hall
    apply IsParameter.factor (s := s)
    rw [operation_of_meaning? hmeaning]
    exact hx
  · intro hbindings x hx
    cases hx with
    | step => exact hstep
    | angle => exact hangle
    | lengthFactor => exact hlength
    | @factor s x hfactor =>
      have hmeaning := meaning?_of_factor? hfactor
      -- The operation is finite, for otherwise it would be one of the bindings.
      suffices Operation.IsFinite _ from this x hfactor
      by_contra hop
      obtain ⟨token, -, hmem⟩ := hloaded.mem_bindings_of_meaning? hmeaning hop
      exact hop (hbindings _ hmem)

/-- A tendril that turns twice as far by a conventional symbol and twists by one of its own. -/
def tendril : Description where
  start := .tokens ["F", "twist", "F", "+", "F"]
  bindings := .ofList [("+", .yaw 2), ("twist", .roll (-0.5)), ("-", .ignore)]

/-- The turtle that draws the tendril is given finite numbers only. -/
theorem isFinite_parameters_tendril :
    ∃ r, ofDescription tendril = .ok r ∧ (∀ pair ∈ tendril.bindings.toList, pair.2.IsFinite) ∧
      ∀ x, r.IsParameter x → x.isFinite = true := by
  have hload : Grammar.IsLoadable tendril := by decide +kernel
  have hbindings : ∀ pair ∈ tendril.bindings.toList, pair.2.IsFinite := by decide +kernel
  obtain ⟨g, hg⟩ := hload.exists_ofDescription
  have h : ofDescription tendril = .ok ⟨g, 0, 0, tendril.turtle, tendril.curve⟩ :=
    ofDescription_eq_ok_iff.2 ⟨rfl, rfl, g, hg, rfl⟩
  obtain ⟨-, -, hiff⟩ := isFinite_parameters_iff h
  exact ⟨_, h, hbindings, hiff.2 hbindings⟩

/-- A thistle that binds a symbol to a turn without bounds. -/
def thistle : Description where
  start := .text "+FF"
  bindings := .ofList [("+", .yaw (1 / 0))]

/-- The thistle as a text. -/
def thistleText : String :=
  "\x7b\"axiom\":\"+FF\",\"commands\":\x7b\"+\":\x7b\"yaw\":1e39\x7d\x7d\x7d"

/-- **A parameter of a loaded ribbon may be infinite.** The factor of a binding is read as the
nearest single, which is infinity if the numeral is too great, and nobody looks at it. -/
theorem exists_infinite_parameter :
    Description.ofText thistleText = .ok thistle ∧
      ∃ r, ofDescription thistle = .ok r ∧
        ∃ s x, r.grammar.meaning? s = some (.yaw x) ∧ r.IsParameter x ∧ x.isFinite = false := by
  have hread : Description.ofText thistleText = .ok thistle := by decide +kernel
  have hload : Grammar.IsLoadable thistle := by decide +kernel
  obtain ⟨g, hg⟩ := hload.exists_ofDescription
  have h : ofDescription thistle = .ok ⟨g, 0, 0, thistle.turtle, thistle.curve⟩ :=
    ofDescription_eq_ok_iff.2 ⟨rfl, rfl, g, hg, rfl⟩
  -- The text gives a turn by a number too great for a single, which is read as infinite.
  have hmem : ("+", Operation.yaw (1 / 0)) ∈ thistle.bindings.toList := by decide +kernel
  obtain ⟨s, hmeaning⟩ := (Grammar.loaded_of_ofDescription hg).exists_meaning?_eq hmem
  refine ⟨hread, _, h, s, 1 / 0, hmeaning, ?_, by decide⟩
  apply IsParameter.factor (s := s)
  rw [operation_of_meaning? hmeaning]
  rfl

end Ribbon

end LSystem
