import LSystem.Proofs.Ribbon.Loading
import Mathlib.Data.List.Induction

/-!
# Numbers that are replaced

The number of rounds, the seed and the width of a ribbon can be replaced after it has been loaded,
as often as one likes. It should not matter whether that is done or the description is changed
before it is loaded. Only the last value of each number can be seen (`Ribbon.overrideAll_eq`), so a
sequence of replacements changes a description by at most three values (`Description.override`).

A description is looked at when it is loaded, and a ribbon only in part when it is evaluated. Rounds
and seed take part in no look at all, and nothing that a grammar is made of depends on the three
numbers. So the two ways can differ in the width only, which is looked at by the same test in both.
In the description it is looked at after the settings of the turtle, which a ribbon has passed, and
in the ribbon before everything else. Hence a width that curves cannot have is what the loader
reports, and it is also what the evaluation reports, whatever else would go wrong in it. The text of
a ribbon needs no width, so it is what it would be with the old one (`results_of_overrides`).
-/

namespace LSystem

/-! ### Sequences of replacements -/

/-- A number that takes the place of another one. -/
inductive Override where
  | generations (n : UInt32)
  | seed (n : UInt64)
  | width (x : Float32)
deriving DecidableEq, Repr

namespace Override

/-- The number of rounds that is given, if it is one. -/
def generations? : Override → Option UInt32
  | generations n => some n
  | _ => none

/-- The seed that is given, if it is one. -/
def seed? : Override → Option UInt64
  | seed n => some n
  | _ => none

/-- The width that is given, if it is one. -/
def width? : Override → Option Float32
  | width x => some x
  | _ => none

/-- **The last value that is given,** or the old one if there is none. -/
def last {α : Type} (value? : Override → Option α) (old : α) (os : List Override) : α :=
  (os.filterMap value?).getLast?.getD old

private theorem last_concat {α : Type} (value? : Override → Option α) (old : α) (os : List Override)
    (o : Override) : last value? old (os ++ [o]) = (value? o).getD (last value? old os) := by
  rw [last, last, List.filterMap_append]
  cases ho : value? o with
  | none => rw [List.filterMap_cons_none ho, List.filterMap_nil, List.append_nil, Option.getD_none]
  | some a =>
    rw [List.filterMap_cons_some ho, List.filterMap_nil, List.getLast?_concat, Option.getD_some,
      Option.getD_some]

end Override

open Override

/-- A ribbon in which one number has been replaced. -/
def Ribbon.override (r : Ribbon) : Override → Ribbon
  | .generations n => r.withGenerations n
  | .seed n => r.withSeed n
  | .width x => r.withWidth x

/-- **A ribbon in which numbers have been replaced** one after the other. -/
def Ribbon.overrideAll (r : Ribbon) (os : List Override) : Ribbon := os.foldl Ribbon.override r

/-- **A description with the last value of each number** in place of its own. -/
def Description.override (d : Description) (os : List Override) : Description :=
  { d with
    generations := last generations? d.generations os
    seed := last seed? d.seed os
    curve := { width := last width? d.curve.width os } }

namespace Ribbon

variable {d : Description} {r : Ribbon}

/-- **The last value of each number counts,** and nothing else of a ribbon changes. -/
theorem overrideAll_eq (r : Ribbon) (os : List Override) :
    r.overrideAll os =
      { r with
        generations := last generations? r.generations os
        seed := last seed? r.seed os
        curve := { width := last width? r.curve.width os } } := by
  induction os using List.reverseRecOn with
  | nil => rfl
  | append_singleton os o ih =>
    have hlast : r.overrideAll (os ++ [o]) = (r.overrideAll os).override o := by
      rw [overrideAll, List.foldl_append]
      rfl
    -- The last step replaces one number by its own and leaves the two others as they were.
    rw [hlast, ih]
    simp only [last_concat]
    cases o <;> rfl

/-! ### Where a width is looked at -/

/-- The loader reports the width of a description if the turtle has passed. -/
private theorem ofDescription_of_validate_eq_error {defect : Defect}
    (hturtle : d.turtle.validate = .ok ())
    (hcurve : d.curve.validate = .error defect) : ofDescription d = .error defect := by
  rw [ofDescription, hturtle, hcurve]
  rfl

/-- The evaluation reports the width of a ribbon before anything else. -/
private theorem evaluate_of_validate_eq_error {defect : Defect}
    (hcurve : r.curve.validate = .error defect) : r.evaluate = .error (.malformed defect) := by
  rw [evaluate, hcurve]
  rfl

/-- **Replacing numbers is changing the description.** If the last width is one that curves can
have, then the changed description is accepted, and its ribbon has the curves and the text of the
one in which the numbers have been replaced. Otherwise the changed description is rejected, the
evaluation fails with the same defect, and the text is what it is with the old width. -/
theorem results_of_overrides (h : ofDescription d = .ok r) (os : List Override) :
    let d' := d.override os
    let r' := r.overrideAll os
    (d'.curve.width.isFinite = true ∧ ¬ d'.curve.width < 0 →
      ∃ r'', ofDescription d' = .ok r'' ∧ r'.evaluate = r''.evaluate ∧
        r'.commandText = r''.commandText) ∧
    (¬ (d'.curve.width.isFinite = true ∧ ¬ d'.curve.width < 0) →
      ofDescription d' = .error (.badWidth d'.curve.width) ∧
      r'.evaluate = .error (.malformed (.badWidth d'.curve.width)) ∧
      ∃ r'', ofDescription { d with generations := d'.generations, seed := d'.seed } = .ok r'' ∧
        r'.commandText = r''.commandText) := by
  intro d' r'
  obtain ⟨hturtle, hcurve, g, hg, rfl⟩ := ofDescription_eq_ok_iff.1 h
  -- What has been replaced in the ribbon is what has been changed in the description.
  have hr' : r' = ⟨g, d'.generations, d'.seed, d'.turtle, d'.curve⟩ := overrideAll_eq _ os
  -- The grammar of a description does not depend on the three numbers.
  have hg' : Grammar.ofDescription d' = .ok g := hg
  rw [← Curve.Settings.validate_eq_ok_iff]
  constructor
  · intro hwidth
    have hload : ofDescription d' = .ok r' :=
      ofDescription_eq_ok_iff.2 ⟨hturtle, hwidth, g, hg', hr'.symm⟩
    exact ⟨r', hload, rfl, rfl⟩
  · intro hwidth
    have hdefect : d'.curve.validate = .error (.badWidth d'.curve.width) := by
      cases hvalidate : d'.curve.validate with
      | ok => exact absurd hvalidate hwidth
      | error defect => rw [(Curve.Settings.of_validate_eq_error hvalidate).2]
    have hdefect' : r'.curve.validate = .error (.badWidth d'.curve.width) := by
      rw [hr', hdefect]
    -- A text is made without looking at the width, so the old one does as well.
    have hload : ofDescription { d with generations := d'.generations, seed := d'.seed } =
        .ok ⟨g, d'.generations, d'.seed, d.turtle, d.curve⟩ :=
      ofDescription_eq_ok_iff.2 ⟨hturtle, hcurve, g, hg, rfl⟩
    refine ⟨ofDescription_of_validate_eq_error hturtle hdefect,
      evaluate_of_validate_eq_error hdefect', _, hload, ?_⟩
    rw [hr']
    rfl

/-- A seedling that can be drawn until it grows a thorn, since nothing says what that is. -/
def seedling : Description where
  start := .tokens ["F", "bud"]
  rules := [{ symbol := "bud", replacement := .tokens ["F", "[", "+", "bud", "]", "thorn"] }]
  bindings := .ofList [("bud", .forward)]
  generations := 3
  seed := 9
  curve := { width := 2 }

/-- Replacements in which no number is left as it was. -/
def retouching : List Override :=
  [.width (-1), .generations 4, .seed 5, .width 0.25, .generations 0]

/-- Replacements at the end of which there are rounds, and a width that is no number. -/
def spoiling : List Override := retouching ++ [.generations 2, .width (0 / 0)]

/-- The seedling can be retouched before it is loaded or after that. If it grows thorns and gets a
width that is no number, it is the width that the evaluation reports. -/
theorem results_of_overrides_seedling :
    ∃ r, ofDescription seedling = .ok r ∧
      (∃ r'',
        ofDescription { seedling with generations := 0, seed := 5, curve := ⟨0.25⟩ } = .ok r'' ∧
        (r.overrideAll retouching).evaluate = r''.evaluate ∧
        (r.overrideAll retouching).commandText = r''.commandText) ∧
      (r.overrideAll spoiling).evaluate = .error (.malformed (.badWidth (0 / 0))) ∧
      ∃ r'', ofDescription { seedling with generations := 2, seed := 5 } = .ok r'' ∧
        (r.overrideAll spoiling).commandText = r''.commandText := by
  have hload : Grammar.IsLoadable seedling := by decide +kernel
  obtain ⟨g, hg⟩ := hload.exists_ofDescription
  have h : ofDescription seedling = .ok ⟨g, 3, 9, seedling.turtle, seedling.curve⟩ :=
    ofDescription_eq_ok_iff.2 ⟨rfl, rfl, g, hg, rfl⟩
  -- The last width given counts, a quarter in one list and no number in the other.
  have hfinite : (0.25 : Float32).isFinite = true ∧ ¬ (0.25 : Float32) < 0 := by decide
  have hnan : ¬ ((0 / 0 : Float32).isFinite = true ∧ ¬ (0 / 0 : Float32) < 0) := by decide
  obtain ⟨haccepted, -⟩ := results_of_overrides h retouching
  obtain ⟨-, hrejected⟩ := results_of_overrides h spoiling
  obtain ⟨-, hevaluate, htext⟩ := hrejected hnan
  exact ⟨_, h, haccepted hfinite, hevaluate, htext⟩

end Ribbon

end LSystem
