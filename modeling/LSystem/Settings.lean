/-!
# Settings

The numbers that a turtle starts from, all of which have to be finite, and the width of the
curves, a finite number that is not negative.
-/

namespace LSystem.Turtle

/-- The settings of a turtle. -/
structure Settings where
  /-- The length of the first steps. -/
  step : Float32 := 1
  /-- The angle of a turn, in degrees. -/
  angle : Float32 := 90
  /-- What the step is multiplied by when it is scaled. -/
  lengthFactor : Float32 := 0.9
deriving DecidableEq, Repr

/-- The names of the settings. -/
inductive Setting where
  | step
  | angle
  | lengthFactor
deriving DecidableEq, Repr

/-- A setting as descriptions call it. -/
def Setting.name : Setting → String
  | .step => "step"
  | .angle => "angle"
  | .lengthFactor => "length_factor"

namespace Settings

/-- The settings by name, in the order in which they are looked at. -/
def toList (s : Settings) : List (Setting × Float32) :=
  [(.step, s.step), (.angle, s.angle), (.lengthFactor, s.lengthFactor)]

/-- The first setting that is not finite, and its value. -/
def firstNotFinite? (s : Settings) : Option (Setting × Float32) :=
  s.toList.find? fun p => !p.2.isFinite

/-- What an angle in degrees is multiplied by to give radians. -/
def radiansPerDegree : Float32 := 0.017453292519943295

/-- The angle of a turn in radians. -/
def radians (s : Settings) : Float32 := s.angle * radiansPerDegree

end Settings

end LSystem.Turtle

namespace LSystem.Curve

/-- The settings of curves. All curves have one width. -/
structure Settings where
  width : Float32 := 0.15
deriving DecidableEq, Repr

/-- Whether curves can have this width. -/
def Settings.isValid (s : Settings) : Bool := s.width.isFinite && !(s.width < 0)

end LSystem.Curve
