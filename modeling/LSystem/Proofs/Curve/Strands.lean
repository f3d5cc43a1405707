import LSystem.Curve.Trace

/-!
# Strands and events

Strands that are joined by breaks come back when the events are split at the breaks
(`strands_of_toList_eq`). All events are joined from some strands, so nothing but the breaks is lost
by splitting them (`exists_toList_eq_joinStrands`), and the points of a trace are those of its
strands (`flatten_strands`).
-/

namespace LSystem.Curve

/-- The events of strands, the first of which has no break in front of it. -/
def joinStrands (first : List Point) (others : List (List Point)) : List Event :=
  first.map .point ++ others.flatMap fun strand => .break :: strand.map .point

namespace Trace

/-- Points in front of all breaks belong to the strand that is being split off. -/
private theorem strandsOnto_map_point (strand points : List Point) (events : List Event) :
    strandsOnto strand (points.map .point ++ events) =
      strandsOnto (points.reverse ++ strand) events := by
  induction points generalizing strand with
  | nil => rfl
  | cons p points ih =>
    rw [List.map_cons, List.cons_append, strandsOnto, ih, List.reverse_cons, List.append_assoc,
      List.singleton_append]

/-- Splitting undoes joining. -/
private theorem strandsOnto_joinStrands (strand first : List Point) (others : List (List Point)) :
    strandsOnto strand (joinStrands first others) = (strand.reverse ++ first) :: others := by
  induction others generalizing strand first with
  | nil =>
    rw [joinStrands, List.flatMap_nil, strandsOnto_map_point, strandsOnto, List.reverse_append,
      List.reverse_reverse]
  | cons other others ih =>
    -- The break in front of the next strand ends the one that has been collected.
    have hother : joinStrands first (other :: others) =
        first.map .point ++ .break :: joinStrands other others := by
      simp [joinStrands]
    rw [hother, strandsOnto_map_point, strandsOnto, ih, List.reverse_append, List.reverse_reverse,
      List.reverse_nil, List.nil_append]

/-- **A trace has the strands that its events are joined from.** -/
theorem strands_of_toList_eq {t : Trace} {first : List Point} {others : List (List Point)}
    (h : t.toList = joinStrands first others) : t.strands = first :: others := by
  rw [strands, h, strandsOnto_joinStrands]
  rfl

/-- All events are joined from some strands. -/
private theorem exists_eq_joinStrands (events : List Event) :
    ∃ first others, events = joinStrands first others := by
  induction events with
  | nil => exact ⟨[], [], rfl⟩
  | cons e events ih =>
    obtain ⟨first, others, rfl⟩ := ih
    cases e with
    | point p => exact ⟨p :: first, others, rfl⟩
    | «break» => exact ⟨[], first :: others, rfl⟩

/-- **The strands of a trace are what its events are joined from.** -/
theorem exists_toList_eq_joinStrands (t : Trace) :
    ∃ first others, t.strands = first :: others ∧ t.toList = joinStrands first others := by
  obtain ⟨first, others, h⟩ := exists_eq_joinStrands t.toList
  exact ⟨first, others, strands_of_toList_eq h, h⟩

/-- Splitting neither loses points nor adds any. -/
theorem flatten_strandsOnto (strand : List Point) (events : List Event) :
    (strandsOnto strand events).flatten = strand.reverse ++ events.filterMap Event.point? := by
  induction events generalizing strand with
  | nil => simp [strandsOnto]
  | cons e events ih =>
    -- A break begins a new list and adds no point.
    cases e with
    | point p =>
      rw [strandsOnto, ih, List.reverse_cons, List.append_assoc]
      rfl
    | «break» =>
      rw [strandsOnto, List.flatten_cons, ih]
      rfl

/-- **Every point of a trace belongs to a strand.** -/
theorem flatten_strands (t : Trace) : t.strands.flatten = t.points :=
  flatten_strandsOnto [] t.toList

end Trace

end LSystem.Curve
