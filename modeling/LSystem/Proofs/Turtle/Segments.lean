import LSystem.Proofs.Curve.Slices
import LSystem.Proofs.Turtle.Strands
import Mathlib.Data.List.Basic

/-!
# Segments of curves

Every forward step that leads anywhere draws one segment, from where the turtle was to where it
is. The curves that are assembled from a trace consist of these segments, in the order in which
they were drawn, and of no others. The points of a strand fit together because the turtle does
not leave its place between two steps that draw (`consecutivePairs_sections`).

One segment may be missing: the first one, if it belongs to a root that is not ended by a branch.
Such a root begins with the first point that the turtle reaches (`segments_trace`).
-/

namespace LSystem.Turtle

open Curve

/-- The segments that legs draw. -/
def drawnSegments (ls : List Leg) : List (Space.Vec3 × Space.Vec3) :=
  (ls.filter Leg.draws).map Leg.segment

/-- Whether something is drawn before the first break, and this break, if there is one, is not
the beginning of a branch. -/
def rootIsLoose (s : List Leg × List (Leg × List Leg)) : Bool :=
  s.1.any Leg.draws && !branchEndsRoot s.2

theorem drawnSegments_cons_of_draws {l : Leg} (h : l.draws = true) (ls : List Leg) :
    drawnSegments (l :: ls) = l.segment :: drawnSegments ls := by
  rw [drawnSegments, List.filter_cons_of_pos h]
  rfl

theorem drawnSegments_cons_of_not_draws {l : Leg} (h : l.draws = false) (ls : List Leg) :
    drawnSegments (l :: ls) = drawnSegments ls := by
  rw [drawnSegments, List.filter_cons_of_neg (by simp [h])]
  rfl

/-- The segments of a journey are those of its sections. -/
private theorem drawnSegments_eq (ls : List Leg) :
    drawnSegments ls =
      drawnSegments (sections ls).1 ++ (sections ls).2.flatMap fun p => drawnSegments p.2 := by
  rw [drawnSegments, filter_draws_eq, List.map_append, List.map_flatMap]
  rfl

/-- Legs draw a point for every segment. -/
theorem drawn_eq_nil_iff {ls : List Leg} : drawn ls = [] ↔ drawnSegments ls = [] := by
  rw [drawn, drawnSegments, List.map_eq_nil_iff, List.map_eq_nil_iff]

/-- Something is drawn if some leg draws. -/
theorem any_draws_eq_false_iff {ls : List Leg} :
    ls.any Leg.draws = false ↔ drawnSegments ls = [] := by
  rw [drawnSegments, List.map_eq_nil_iff, List.any_eq_false, List.filter_eq_nil_iff]

/-- What the legs of a section draw is a path of segments from the place where the section begins:
where the turtle stands, and for a later section the place behind its break. -/
theorem consecutivePairs_sections (settings : Settings) (s : State) (ops : List Operation) :
    (s.frame.position :: (drawn (sections (journeyFrom settings s ops)).1).map
        (·.position)).consecutivePairs =
      drawnSegments (sections (journeyFrom settings s ops)).1 ∧
    ∀ p ∈ (sections (journeyFrom settings s ops)).2,
      (p.1.after.position :: (drawn p.2).map (·.position)).consecutivePairs =
        drawnSegments p.2 := by
  induction ops generalizing s with
  | nil => exact ⟨rfl, fun _ h => absurd h List.not_mem_nil⟩
  | cons op ops ih =>
    cases hstep : s.step settings op with
    | none =>
      rw [journeyFrom, hstep]
      exact ⟨rfl, fun _ h => absurd h List.not_mem_nil⟩
    | some s₁ =>
      obtain ⟨hroot, hlater⟩ := ih s₁
      rw [journeyFrom_cons_of_step hstep]
      cases State.step_effect hstep with
      | draw draws breaks state_eq =>
        -- The path goes on to the point that is drawn.
        rw [sections_cons_of_not_breaks breaks]
        refine ⟨?_, hlater⟩
        rw [drawn_cons_of_draws draws, drawnSegments_cons_of_draws draws, ← hroot]
        rfl
      | «break» draws breaks rooted rooted_eq state_eq =>
        -- The path that was to come is that of a section of its own.
        rw [sections_cons_of_breaks breaks]
        refine ⟨rfl, fun p hp => ?_⟩
        rcases List.mem_cons.1 hp with rfl | hp
        · exact hroot
        · exact hlater p hp
      | quiet draws breaks position_eq state_eq =>
        rw [sections_cons_of_not_breaks breaks]
        refine ⟨?_, hlater⟩
        rw [drawn_cons_of_not_draws draws, drawnSegments_cons_of_not_draws draws, ← position_eq]
        exact hroot

/-- A later strand has the segments of its section. -/
private theorem polyline_laterStrand {p : Leg × List Leg}
    (h : (p.1.after.position :: (drawn p.2).map (·.position)).consecutivePairs =
      drawnSegments p.2) : polyline (laterStrand p) = drawnSegments p.2 := by
  rw [laterStrand, strandFrom]
  by_cases hdrawn : drawn p.2 = []
  · rw [if_pos hdrawn, drawn_eq_nil_iff.1 hdrawn]
    rfl
  · rw [if_neg hdrawn, ← h]
    rfl

/-- The root has the segments of its section, but for the first one if no branch ends it. -/
private theorem polyline_rootStrand {origin : Point} {s : List Leg × List (Leg × List Leg)}
    (h : (origin.position :: (drawn s.1).map (·.position)).consecutivePairs =
      drawnSegments s.1) :
    polyline (rootStrand origin s) =
      if rootIsLoose s then (drawnSegments s.1).tail else drawnSegments s.1 := by
  rw [rootStrand_eq, rootIsLoose]
  -- A branch at its end gives the root strand its origin, and without it the first segment is lost.
  cases hany : s.1.any Leg.draws with
  | false =>
    have hdrawn := drawn_eq_nil_iff.2 (any_draws_eq_false_iff.1 hany)
    rw [if_neg (by simp [hdrawn]), hdrawn, any_draws_eq_false_iff.1 hany]
    rfl
  | true =>
    have hdrawn : drawn s.1 ≠ [] := by
      rw [Ne, drawn_eq_nil_iff, ← any_draws_eq_false_iff, hany]
      exact Bool.noConfusion
    cases branchEndsRoot s.2 with
    | true =>
      rw [if_pos ⟨hdrawn, rfl⟩, ← h]
      rfl
    | false =>
      rw [if_neg (by simp), ← h, polyline]
      cases drawn s.1 <;> rfl

/-- The segments of all strands of a walk. -/
theorem flatMap_polyline_strands {settings : Settings} {ops : List Operation} {t : Trace}
    (h : walk settings ops = .ok t) :
    t.strands.flatMap polyline =
      if rootIsLoose (sections (journeyFrom settings (.start settings) ops)) then
        (drawnSegments (journeyFrom settings (.start settings) ops)).tail
      else drawnSegments (journeyFrom settings (.start settings) ops) := by
  obtain ⟨hroot, hlater⟩ := consecutivePairs_sections settings (.start settings) ops
  have hlaterStrands :
      (sections (journeyFrom settings (.start settings) ops)).2.flatMap
          (fun p => polyline (laterStrand p)) =
        (sections (journeyFrom settings (.start settings) ops)).2.flatMap
          fun p => drawnSegments p.2 :=
    List.flatMap_congr fun p hp => polyline_laterStrand (hlater p hp)
  rw [strands_walk h, List.flatMap_cons, List.flatMap_map, drawnSegments_eq]
  rw [polyline_rootStrand hroot, hlaterStrands]
  cases hloose : rootIsLoose (sections (journeyFrom settings (.start settings) ops)) with
  | false => rfl
  | true =>
    -- The first segment is one of the root, so it is missing from the whole as well.
    have hany := (Bool.and_eq_true_iff.1 hloose).1
    have hne : drawnSegments (sections (journeyFrom settings (.start settings) ops)).1 ≠ [] := by
      rw [Ne, ← any_draws_eq_false_iff, hany]
      exact Bool.noConfusion
    rw [if_pos rfl, if_pos rfl, List.tail_append_of_ne_nil hne]

/-- **No segment is lost, doubled or invented.** Every operation of the word is carried out, and the
segments of its curves are those that are drawn on the way, in their order. Only the first one is
missing if it is drawn before the first break and that break, if there is one, is not the beginning
of a branch. This holds of the strands of the trace, and of the curves that are cut out of the
assembled buffer as long as there are words for the places of all coordinates. -/
theorem segments_trace {settings : Settings} {r : Repertoire} {w : Word} {t : Trace}
    (h : trace settings r w = .ok t) (curve : Curve.Settings) :
    let legs := journey settings r w
    let segments :=
      if rootIsLoose (sections legs) then (drawnSegments legs).tail else drawnSegments legs
    legs.map Leg.op = w.map r.operation ∧
    t.strands.flatMap polyline = segments ∧
    ∃ b, assemble curve t = .ok b ∧
      (t.IsAddressable → ∃ curves, b.curves? = some curves ∧
        curves.flatMap Slice.segments = segments) := by
  intro legs segments
  have hstrands : t.strands.flatMap polyline = segments := flatMap_polyline_strands h
  refine ⟨map_op_journey h, hstrands, assembled curve t, assemble_eq curve t,
    fun haddressable => ?_⟩
  refine ⟨(t.strands.filter IsCurve).map Slice.ofStrand, curves?_assembled curve haddressable, ?_⟩
  -- Strands that are too short to be curves have no segments to lose.
  rw [List.flatMap_map]
  simp only [segments_ofStrand]
  rw [flatMap_polyline_filter, hstrands]

/-- A branch ends the root, so all three segments are there. -/
theorem segments_of_branching_word :
    ∃ t, trace {} ⟨#[.forward, .yaw 1, .branchStart, .branchEnd]⟩ [0, 2, 1, 0, 3, 0] = .ok t ∧
      ∃ b curves, assemble {} t = .ok b ∧ b.curves? = some curves ∧
        (curves.flatMap Slice.segments).length = 3 := by
  refine ⟨_, rfl, ?_⟩
  obtain ⟨-, -, b, hb, hcurves⟩ := @segments_trace {}
    ⟨#[.forward, .yaw 1, .branchStart, .branchEnd]⟩ [0, 2, 1, 0, 3, 0] _ rfl {}
  obtain ⟨curves, hcut, hsegments⟩ := hcurves (by decide)
  exact ⟨b, curves, hb, hcut, by rw [hsegments]; rfl⟩

end LSystem.Turtle
