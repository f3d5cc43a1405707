import LSystem.Turtle.Frame

/-!
# Traces

What a turtle leaves behind: points, each with the normal of the surface there, and breaks
between the strands that the points form.
-/

namespace LSystem.Curve

open LSystem.Space

/-- A point of a curve and the normal of the surface there. -/
structure Point where
  position : Vec3
  normal : Vec3
deriving DecidableEq, Repr

/-- The point under a turtle. -/
def Point.at (f : Turtle.Frame) : Point := ⟨f.position, f.normal⟩

/-- One element of a trace. -/
inductive Event where
  | point (p : Point)
  /-- Ends a strand. -/
  | break
deriving DecidableEq, Repr

/-- The point that an event is. -/
def Event.point? : Event → Option Point
  | .point p => some p
  | .break => none

/-- **A trace:** points and breaks in the order in which they are drawn. -/
structure Trace where
  events : Array Event
deriving DecidableEq, Repr

namespace Trace

/-- The trace of a turtle that has not moved. -/
def empty : Trace := ⟨#[]⟩

/-- The events of a trace. -/
def toList (t : Trace) : List Event := t.events.toList

/-- The trace of a list of events. -/
def ofList (events : List Event) : Trace := ⟨events.toArray⟩

/-- Adds an event. -/
def push (t : Trace) (e : Event) : Trace := ⟨t.events.push e⟩

/-- Puts an event in front of all others. -/
def prepend (t : Trace) (e : Event) : Trace := ⟨#[e] ++ t.events⟩

/-- The number of events. -/
def size (t : Trace) : Nat := t.events.size

/-- The points of a trace. -/
def points (t : Trace) : List Point := t.toList.filterMap Event.point?

/-- The number of points. -/
def pointCount (t : Trace) : Nat := t.points.length

@[simp] theorem toList_empty : empty.toList = [] := rfl

@[simp] theorem toList_ofList (events : List Event) : (ofList events).toList = events := rfl

@[simp] theorem toList_push (t : Trace) (e : Event) : (t.push e).toList = t.toList ++ [e] := by
  simp [push, toList]

@[simp] theorem toList_prepend (t : Trace) (e : Event) :
    (t.prepend e).toList = e :: t.toList := by
  simp [prepend, toList]

/-! ### Strands -/

/-- Splits events at the breaks; `strand` holds the points before them, the last one first. -/
def strandsOnto (strand : List Point) : List Event → List (List Point)
  | [] => [strand.reverse]
  | .point p :: es => strandsOnto (p :: strand) es
  | .break :: es => strand.reverse :: strandsOnto [] es

/-- **The strands of a trace:** the points between one break and the next, also where there
are none. -/
def strands (t : Trace) : List (List Point) := strandsOnto [] t.toList

end Trace

end LSystem.Curve
