import LSystem.Curve.Assembly
import LSystem.Grammar.Expansion
import LSystem.Grammar.Loading
import LSystem.Turtle.Repertoire

/-!
# Ribbons

A ribbon is a grammar with all that is needed to draw it: the number of rounds, the seed,
and the settings of turtle and curves. It is loaded from a description, which is looked
at in full; then its rounds, its seed and its width may be replaced. To evaluate a ribbon
is to expand the start word, to let a turtle walk along the result, and to assemble the
curves. Since a new width has not been looked at, that comes first.
-/

namespace LSystem

/-- **A ribbon.** -/
structure Ribbon where
  grammar : Grammar
  generations : UInt32
  seed : UInt64
  turtle : Turtle.Settings
  curve : Curve.Settings

/-- Looks at the settings of a turtle. -/
def Turtle.Settings.validate (s : Turtle.Settings) : Except Defect Unit :=
  match s.firstNotFinite? with
  | some (setting, value) => .error (.settingNotFinite setting value)
  | none => .ok ()

/-- Looks at the settings of curves. -/
def Curve.Settings.validate (s : Curve.Settings) : Except Defect Unit :=
  if s.isValid then .ok () else .error (.badWidth s.width)

namespace Ribbon

/-! ### Loading -/

/-- **The ribbon of a description.** -/
def ofDescription (d : Description) : Except Defect Ribbon := do
  d.turtle.validate
  d.curve.validate
  let grammar ← Grammar.ofDescription d
  return ⟨grammar, d.generations, d.seed, d.turtle, d.curve⟩

/-- The ribbon that a text describes. -/
def ofText (text : String) : Except Defect Ribbon :=
  match Description.ofText text with
  | .ok d => ofDescription d
  | .error f => .error (.unreadable f)

/-! ### Replacements -/

/-- The ribbon with another number of rounds. -/
def withGenerations (r : Ribbon) (generations : UInt32) : Ribbon := { r with generations }

/-- The ribbon with another seed. -/
def withSeed (r : Ribbon) (seed : UInt64) : Ribbon := { r with seed }

/-- The ribbon with another width. -/
def withWidth (r : Ribbon) (width : Float32) : Ribbon := { r with curve := { r.curve with width } }

/-! ### Evaluation -/

/-- The word that the turtle walks along. -/
def expand (r : Ribbon) : Except Error Word := r.grammar.expand r.seed r.generations r.grammar.start

/-- The expanded word as text. -/
def commandText (r : Ribbon) : Except Error String := do
  return (← r.expand).render r.grammar.symbols

/-- The repertoire of the turtle. -/
def repertoire (r : Ribbon) : Turtle.Repertoire := .setMeanings .empty r.grammar

/-- **The curves of a ribbon.** -/
def evaluate (r : Ribbon) : Except Error Curve.Buffer := do
  -- The width may have been replaced since the ribbon was loaded.
  r.curve.validate.mapError .malformed
  let w ← r.expand
  let t ← Turtle.trace r.turtle r.repertoire w
  Curve.assemble r.curve t

end Ribbon

end LSystem
