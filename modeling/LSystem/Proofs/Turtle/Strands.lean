import LSystem.Proofs.Curve.Strands
import LSystem.Proofs.Turtle.Journey

/-!
# The strands of a trace

A turtle keeps three marks to decide which points it draws: whether it is still on the root,
whether its strand has points, and an anchor that is drawn late or never. It also puts a point
in front of everything it has drawn before. The trace that comes out is simple all the same.
Every section of the journey gives one strand, which is the points that its legs draw, behind
the point where the section began if they draw any (`strandFrom`). The root begins at the
origin only if a branch ends it.

The proof does not go by what the marks mean for the legs behind the turtle, but by what they
mean for those ahead: from any state, the marks and the rest of the journey say what the trace
will be (`completed`). No leg changes that (`completed_step`), so at the end it is the trace
(`toList_walkFrom`). `strands_trace` is the case of a whole word.
-/

namespace LSystem.Turtle

open Curve

/-! ### Strands of sections -/

/-- The points that legs draw. -/
def drawn (ls : List Leg) : List Point := (ls.filter Leg.draws).map fun l => .at l.after

/-- The strand that legs draw from a beginning, if there is one. Legs that draw nothing do not
draw the beginning either. -/
def strandFrom (start : Option Point) (ls : List Leg) : List Point :=
  if drawn ls = [] then [] else start.toList ++ drawn ls

/-- The strand of the legs behind a break. -/
def laterStrand (p : Leg × List Leg) : List Point := strandFrom (some (.at p.1.after)) p.2

/-- Whether the first break is the beginning of a branch. -/
def branchEndsRoot (later : List (Leg × List Leg)) : Bool :=
  later.head?.any fun p => p.1.op == .branchStart

/-- The strand of the legs before the first break. -/
def rootStrand (origin : Point) (s : List Leg × List (Leg × List Leg)) : List Point :=
  strandFrom (if branchEndsRoot s.2 then some origin else none) s.1

@[simp] theorem drawn_nil : drawn [] = [] := rfl

theorem drawn_cons_of_draws {l : Leg} (h : l.draws = true) (ls : List Leg) :
    drawn (l :: ls) = .at l.after :: drawn ls := by
  rw [drawn, List.filter_cons_of_pos h]
  rfl

theorem drawn_cons_of_not_draws {l : Leg} (h : l.draws = false) (ls : List Leg) :
    drawn (l :: ls) = drawn ls := by
  rw [drawn, List.filter_cons_of_neg (by simp [h])]
  rfl

@[simp] theorem strandFrom_nil (start : Option Point) : strandFrom start [] = [] := rfl

/-- A strand without a beginning is what is drawn. -/
@[simp] theorem strandFrom_none (ls : List Leg) : strandFrom none ls = drawn ls := by
  rw [strandFrom]
  split
  · next h => exact h.symm
  · rfl

theorem strandFrom_cons_of_draws {l : Leg} (h : l.draws = true) (start : Option Point)
    (ls : List Leg) :
    strandFrom start (l :: ls) = start.toList ++ .at l.after :: drawn ls := by
  rw [strandFrom, drawn_cons_of_draws h, if_neg (List.cons_ne_nil _ _)]

theorem strandFrom_cons_of_not_draws {l : Leg} (h : l.draws = false) (start : Option Point)
    (ls : List Leg) : strandFrom start (l :: ls) = strandFrom start ls := by
  rw [strandFrom, strandFrom, drawn_cons_of_not_draws h]

/-- The root begins at the origin if it has points and a branch ends it. -/
theorem rootStrand_eq (origin : Point) (s : List Leg × List (Leg × List Leg)) :
    rootStrand origin s =
      if drawn s.1 ≠ [] ∧ branchEndsRoot s.2 then origin :: drawn s.1 else drawn s.1 := by
  rw [rootStrand, strandFrom]
  by_cases hdrawn : drawn s.1 = []
  · simp [hdrawn]
  · cases branchEndsRoot s.2 <;> simp [hdrawn]

/-- A strand that has a beginning is empty or has at least two points. -/
private theorem length_strandFrom_some_ne_one (start : Point) (ls : List Leg) :
    (strandFrom (some start) ls).length ≠ 1 := by
  rw [strandFrom]
  split
  · exact Nat.zero_ne_one
  · next h =>
    have := List.length_pos_iff.2 h
    rw [Option.toList_some, List.singleton_append, List.length_cons]
    omega

/-! ### Traces of walks -/

namespace State

variable (s : State)

@[simp] theorem toList_drawAnchor :
    s.drawAnchor.trace.toList = s.trace.toList ++ s.anchor.toList.map .point := by
  rw [drawAnchor]
  cases s.anchor <;> simp

@[simp] theorem anchor_drawAnchor : s.drawAnchor.anchor = none := by
  rw [drawAnchor]
  cases h : s.anchor <;> simp [h]

@[simp] theorem onRoot_drawAnchor : s.drawAnchor.onRoot = s.onRoot := by
  rw [drawAnchor]
  cases s.anchor <;> rfl

@[simp] theorem frame_drawAnchor : s.drawAnchor.frame = s.frame := by
  rw [drawAnchor]
  cases s.anchor <;> rfl

/-- The beginning of the root stands in front if the root has points. -/
private theorem toList_anchorRoot (origin : Point) :
    (s.anchorRoot origin).trace.toList =
      (if s.onRoot && s.strandOpen then [.point origin] else []) ++ s.trace.toList := by
  rw [anchorRoot]
  split <;> simp

end State

/-- What legs put in front of the trace: the origin, if the root has points or gets some before a
branch ends it. -/
def rootStart (origin : Point) (s : State) (legs : List Leg × List (Leg × List Leg)) :
    List Event :=
  if s.onRoot && (s.strandOpen || !(drawn legs.1).isEmpty) && branchEndsRoot legs.2 then
    [.point origin]
  else []

/-- What legs put behind the trace: the rest of the strand that they start in, and the strands of
the other sections. -/
def strandEvents (s : State) (legs : List Leg × List (Leg × List Leg)) : List Event :=
  joinStrands (strandFrom s.anchor legs.1) (legs.2.map laterStrand)

/-- The trace of a turtle when it has gone the legs that lie ahead of it. -/
def completed (origin : Point) (s : State) (legs : List Leg × List (Leg × List Leg)) :
    List Event :=
  rootStart origin s legs ++ s.trace.toList ++ strandEvents s legs

section Completed

variable {settings : Settings} {s s' : State} {l : Leg} {ls : List Leg}

/-- When a point has been drawn, the strand is open and its anchor is part of the trace. -/
private theorem completed_draw {origin : Point} (draws : l.draws = true) (breaks : l.breaks = false)
    (after_eq : l.after = s'.frame) (state_eq : s' = s.drawAnchor.advance.drawPoint) :
    completed origin s' (sections ls) = completed origin s (sections (l :: ls)) := by
  rw [sections_cons_of_not_breaks breaks]
  have hmarks : s'.onRoot = s.onRoot ∧ s'.strandOpen = true ∧ s'.anchor = none := by
    rw [state_eq]
    simp [State.drawPoint, State.advance]
  have htrace : s'.trace.toList =
      s.trace.toList ++ s.anchor.toList.map .point ++ [.point (.at l.after)] := by
    rw [after_eq, state_eq]
    simp [State.drawPoint, State.advance]
  obtain ⟨honRoot, hopen, hanchor⟩ := hmarks
  -- The root has points now, as it was going to have before.
  have hroot : rootStart origin s' (sections ls) =
      rootStart origin s (l :: (sections ls).1, (sections ls).2) := by
    rw [rootStart, rootStart, drawn_cons_of_draws draws, honRoot, hopen]
    simp
  rw [completed, completed, hroot, htrace, strandEvents, strandEvents,
    strandFrom_cons_of_draws draws, hanchor, strandFrom_none]
  simp [joinStrands]

/-- When a strand has been ended, its section has nothing more to add, and the beginning of the
root has been drawn if it ever will be. -/
private theorem completed_break {rooted : State} (breaks : l.breaks = true)
    (after_eq : l.after = s'.frame)
    (rooted_eq : rooted =
      if l.op = .branchStart then s.anchorRoot (.at (.start settings.step)) else s)
    (state_eq : s' = { rooted with frame := s'.frame, saved := s'.saved }.breakStrand) :
    completed (.at (.start settings.step)) s' (sections ls) =
      completed (.at (.start settings.step)) s (sections (l :: ls)) := by
  rw [sections_cons_of_breaks breaks]
  have hmarks : s'.onRoot = false ∧ s'.anchor = some (.at l.after) := by
    rw [after_eq, state_eq]
    exact ⟨rfl, rfl⟩
  have htrace : s'.trace.toList = rooted.trace.toList ++ [.break] := by
    rw [state_eq]
    exact Trace.toList_push _ _
  -- What was to be put in front of the trace has been, if the break begins a branch.
  have hrooted : rooted.trace.toList =
      rootStart (.at (.start settings.step)) s ([], (l, (sections ls).1) :: (sections ls).2) ++
        s.trace.toList := by
    rw [rooted_eq, rootStart]
    by_cases hop : l.op = .branchStart
    · simp [hop, branchEndsRoot, State.toList_anchorRoot]
    · simp [hop, branchEndsRoot]
  obtain ⟨honRoot, hanchor⟩ := hmarks
  -- Behind the break the turtle is off the root, and nothing is put in front any more.
  have hroot : rootStart (.at (.start settings.step)) s' (sections ls) = [] := by
    rw [rootStart, honRoot]
    rfl
  rw [completed, completed, hroot, htrace, hrooted, strandEvents, strandEvents, hanchor]
  simp [joinStrands, laterStrand]

/-- A quiet leg changes neither the marks nor the trace. -/
private theorem completed_quiet {origin : Point} {f : Frame} (draws : l.draws = false)
    (breaks : l.breaks = false) (state_eq : s' = s.setFrame f) :
    completed origin s' (sections ls) = completed origin s (sections (l :: ls)) := by
  rw [sections_cons_of_not_breaks breaks, completed, completed, rootStart, rootStart, strandEvents,
    strandEvents, drawn_cons_of_not_draws draws, strandFrom_cons_of_not_draws draws, state_eq]
  rfl

/-- **One leg.** What the trace will be does not change while the turtle goes on. -/
theorem completed_step {op : Operation} (h : s.step settings op = some s') (ls : List Leg) :
    completed (.at (.start settings.step)) s' (sections ls) =
      completed (.at (.start settings.step)) s (sections (⟨op, s.frame, s'.frame⟩ :: ls)) := by
  cases State.step_effect h with
  | draw draws breaks state_eq => exact completed_draw draws breaks rfl state_eq
  | «break» draws breaks rooted rooted_eq state_eq =>
    exact completed_break breaks rfl rooted_eq state_eq
  | quiet draws breaks position_eq state_eq => exact completed_quiet draws breaks state_eq

end Completed

/-- **The trace of a walk** is the trace that it starts with, between the beginning of the root
and the strands of its journey. -/
theorem toList_walkFrom {settings : Settings} {position : Nat} {s s' : State}
    {ops : List Operation} (h : walkFrom settings position s ops = .ok s') :
    s'.trace.toList =
      completed (.at (.start settings.step)) s (sections (journeyFrom settings s ops)) := by
  induction ops generalizing position s with
  | nil =>
    rw [walkFrom_nil, Except.ok.injEq] at h
    subst h
    simp [journeyFrom, sections, completed, rootStart, branchEndsRoot, strandEvents, joinStrands]
  | cons op ops ih =>
    obtain ⟨s₁, hstep, hwalk⟩ := exists_step_of_walkFrom_cons h
    rw [ih hwalk, journeyFrom_cons_of_step hstep, completed_step hstep]

/-- **The strands of a walk.** Branches may still be open at its end. -/
theorem strands_walkFrom {settings : Settings} {ops : List Operation} {s : State}
    (h : walkFrom settings 0 (.start settings) ops = .ok s) :
    s.trace.strands =
      rootStrand (.at (.start settings.step))
          (sections (journeyFrom settings (.start settings) ops))
        :: (sections (journeyFrom settings (.start settings) ops)).2.map laterStrand := by
  apply Trace.strands_of_toList_eq
  rw [toList_walkFrom h]
  generalize sections (journeyFrom settings (.start settings) ops) = legs
  -- Before the first operation nothing is drawn, and the root has no beginning.
  have hanchor : (State.start settings).anchor = none := rfl
  have hempty : (State.start settings).trace.toList = [] := rfl
  rw [completed, hempty, List.append_nil, rootStart, strandEvents, hanchor, strandFrom_none,
    rootStrand_eq]
  by_cases hdrawn : drawn legs.1 = [] <;> cases branchEndsRoot legs.2 <;>
    simp [joinStrands, State.start, hdrawn]

/-- The strands of a whole walk. -/
theorem strands_walk {settings : Settings} {ops : List Operation} {t : Trace}
    (h : walk settings ops = .ok t) :
    t.strands =
      rootStrand (.at (.start settings.step))
          (sections (journeyFrom settings (.start settings) ops))
        :: (sections (journeyFrom settings (.start settings) ops)).2.map laterStrand := by
  obtain ⟨s, hwalk, -, rfl⟩ := walk_eq_ok_iff.1 h
  exact strands_walkFrom hwalk

/-! ### Words -/

/-- **The strands of a word.** Every operation is carried out, and there is one more strand than
there are breaks on the way. The root is what is drawn before the first break, behind the origin
if anything is and a branch begins then. Every other strand is empty if nothing is drawn before
the next break, and otherwise the point right behind its break and what is drawn. Hence no strand
but the root has exactly one point. -/
theorem strands_trace {settings : Settings} {r : Repertoire} {w : Word} {t : Trace}
    (h : trace settings r w = .ok t) :
    let legs := journey settings r w
    let root := (sections legs).1
    let later := (sections legs).2
    legs.map Leg.op = w.map r.operation ∧
    t.strands.length = legs.countP Leg.breaks + 1 ∧
    t.strands[0]? = some
      (if drawn root ≠ [] ∧ branchEndsRoot later then .at (.start settings.step) :: drawn root
      else drawn root) ∧
    (∀ j b ls, later[j]? = some (b, ls) →
      t.strands[j + 1]? = some (if drawn ls = [] then [] else .at b.after :: drawn ls)) ∧
    (∀ j strand, t.strands[j + 1]? = some strand → strand.length ≠ 1) := by
  intro legs root later
  have hstrands : t.strands = rootStrand (.at (.start settings.step)) (root, later) ::
      later.map laterStrand := strands_walk h
  refine ⟨map_op_journey h, ?_, ?_, ?_, ?_⟩
  · rw [hstrands, List.length_cons, List.length_map, length_sections_snd]
  · rw [hstrands, List.getElem?_cons_zero, rootStrand_eq]
  · intro j b ls hj
    rw [hstrands, List.getElem?_cons_succ, List.getElem?_map, hj]
    rfl
  · intro j strand hj
    rw [hstrands, List.getElem?_cons_succ, List.getElem?_map, Option.map_eq_some_iff] at hj
    obtain ⟨p, -, rfl⟩ := hj
    exact length_strandFrom_some_ne_one _ _

/-- A branch gives the root its beginning, and what is drawn in the branch a strand of its own. -/
theorem strands_of_branching_word :
    ∃ t, trace {} ⟨#[.forward, .yaw 1, .branchStart, .branchEnd]⟩ [0, 2, 1, 0, 3] = .ok t ∧
      t.strands.length = 3 ∧
      t.strands[0]? = some [.at (.start 1), .at ((Frame.start 1).advance 1)] ∧
      t.strands[2]? = some [] := by
  refine ⟨_, rfl, ?_⟩
  obtain ⟨-, hlength, hroot, hlater, -⟩ := @strands_trace {}
    ⟨#[.forward, .yaw 1, .branchStart, .branchEnd]⟩ [0, 2, 1, 0, 3] _ rfl
  exact ⟨hlength.trans rfl, hroot.trans rfl, (hlater 1 _ _ rfl).trans rfl⟩

end LSystem.Turtle
