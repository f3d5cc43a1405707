import LSystem.Proofs.Curve.Outline
import LSystem.Proofs.Outcome
import LSystem.Proofs.Turtle.Branches

/-!
# Turning does not change the topology

A turtle that is turned goes elsewhere, but it goes on in the same way: it draws as many points and
breaks its strands in the same places. For what an operation does to the outline of a trace does
not depend on where the turtle is or which way it looks. It depends on whether the next step is one,
hence on the steps of the current frame and of those to come back to, and on the marks that the
turtle keeps for its strand. That is the *outline* of a state, and an operation takes outlines to
outlines (`State.map_outline_step`) without a look at anything else.

Turns leave an outline as it is, so one turn may stand for another, by any angle, or for doing
nothing. Turtles with equal outlines keep them equal along operations that differ in this way only,
or they are stuck at the same operation (`sameOutcome_walkFrom`). No position is compared, so it
does not matter that positions may not be numbers any more.
-/

namespace LSystem.Turtle

open Curve

/-! ### Outlines of states -/

/-- What the steps and the marks of a turtle come to, and the outline of its trace. -/
structure Outline where
  step : Float32
  savedSteps : List Float32
  trace : List Bool
  onRoot : Bool
  strandOpen : Bool
  anchored : Bool
deriving DecidableEq, Repr

namespace Outline

/-- Draws a point, behind the anchor if there is one. -/
def draw (o : Outline) : Outline :=
  { o with
    trace := o.trace ++ if o.anchored then [false, false] else [false]
    strandOpen := true
    anchored := false }

/-- Ends the strand. -/
def breakStrand (o : Outline) : Outline :=
  { o with
    trace := o.trace ++ [true]
    onRoot := false
    strandOpen := false
    anchored := true }

/-- Puts the beginning of the root in front. -/
def anchorRoot (o : Outline) : Outline :=
  if o.onRoot && o.strandOpen then { o with trace := false :: o.trace } else o

/-- **The outline after an operation,** where steps are scaled by a factor. -/
def move (factor : Float32) (o : Outline) : Operation → Option Outline
  | .forward => some (if o.step ≤ 0 then o else o.draw)
  | .move => some (if o.step ≤ 0 then o else o.breakStrand)
  | .scaleStep => some { o with step := o.step * factor }
  | .branchStart => some { o.anchorRoot.breakStrand with savedSteps := o.step :: o.savedSteps }
  | .branchEnd =>
    match o.savedSteps with
    | step :: savedSteps => some { o with step, savedSteps }.breakStrand
    | [] => none
  | .yaw _ | .pitch _ | .roll _ | .turnAround | .ignore => some o

end Outline

namespace State

def outline (s : State) : Outline where
  step := s.frame.step
  savedSteps := s.saved.map (·.step)
  trace := s.trace.outline
  onRoot := s.onRoot
  strandOpen := s.strandOpen
  anchored := s.anchor.isSome

variable {settings : Settings} {s : State}

theorem outline_draw (s : State) : s.drawAnchor.advance.drawPoint.outline = s.outline.draw := by
  unfold drawAnchor
  cases hanchor : s.anchor <;>
    simp [outline, Outline.draw, advance, drawPoint, hanchor, Event.isBreak]

theorem outline_breakStrand (s : State) : s.breakStrand.outline = s.outline.breakStrand := by
  simp [outline, Outline.breakStrand, breakStrand, Event.isBreak]

theorem outline_anchorRoot (s : State) (origin : Point) :
    (s.anchorRoot origin).outline = s.outline.anchorRoot := by
  unfold anchorRoot Outline.anchorRoot
  cases hroot : s.onRoot && s.strandOpen <;> simp [outline, hroot, Event.isBreak]

/-- **What an operation does to an outline.** -/
theorem map_outline_step (settings : Settings) (s : State) (op : Operation) :
    (s.step settings op).map outline = s.outline.move settings.lengthFactor op := by
  -- Only the two steps and the two brackets touch the outline, and no direction enters any of them.
  cases op with
  | forward =>
    have hstep : s.outline.step = s.frame.step := rfl
    rw [step, Option.map_some, Outline.move, canStep, hstep]
    by_cases hzero : s.frame.step ≤ 0
    · simp [hzero]
    · simp [hzero, outline_draw]
  | move =>
    have hstep : s.outline.step = s.frame.step := rfl
    rw [step, Option.map_some, Outline.move, canStep, hstep]
    by_cases hzero : s.frame.step ≤ 0
    · simp [hzero]
    · -- One step on, the turtle has the outline that it had.
      simp [hzero, outline_breakStrand]
      rfl
  | branchStart =>
    -- The root is anchored and the strand broken before the frame is saved.
    let origin : Point := .at (.start settings.step)
    have hbroken : (s.anchorRoot origin).breakStrand.outline =
        s.outline.anchorRoot.breakStrand := by
      rw [outline_breakStrand, outline_anchorRoot]
    rw [step, Option.map_some, Outline.move, ← hbroken]
    have hkept : (s.anchorRoot origin).frame = s.frame ∧ (s.anchorRoot origin).saved = s.saved := by
      unfold anchorRoot
      split <;> exact ⟨rfl, rfl⟩
    simp [outline, save, breakStrand, hkept, origin]
  | branchEnd =>
    rw [step, Outline.move]
    -- Frames and their steps are saved side by side, so there is a frame if there is a step.
    cases hsaved : s.saved with
    | nil =>
      have hsteps : s.outline.savedSteps = [] := congrArg (List.map Frame.step) hsaved
      simp only [hsteps, Option.map_none]
    | cons f saved =>
      have hsteps : s.outline.savedSteps = f.step :: saved.map (·.step) :=
        congrArg (List.map Frame.step) hsaved
      simp only [hsteps, Option.map_some, outline_breakStrand]
      rfl
  | yaw factor | pitch factor | roll factor | turnAround | scaleStep | ignore => rfl

end State

/-! ### Operations that turn -/

/-- An operation that turns the turtle, or does nothing. -/
def Operation.IsTurn : Operation → Bool
  | .yaw _ | .pitch _ | .roll _ | .turnAround | .ignore => true
  | _ => false

/-- Operations that are the same, or turn the turtle both. -/
def Operation.SameMove (op op' : Operation) : Prop := op = op' ∨ op.IsTurn ∧ op'.IsTurn

instance (op op' : Operation) : Decidable (op.SameMove op') :=
  inferInstanceAs (Decidable (op = op' ∨ op.IsTurn ∧ op'.IsTurn))

/-- A turn leaves an outline as it is. -/
private theorem Outline.move_of_isTurn {op : Operation} (h : op.IsTurn) (factor : Float32)
    (o : Outline) :
    o.move factor op = some o := by
  cases op with
  | yaw _ | pitch _ | roll _ | turnAround | ignore => rfl
  | _ => cases h

theorem Outline.move_congr {op op' : Operation} (h : op.SameMove op') (factor : Float32)
    (o : Outline) : o.move factor op = o.move factor op' := by
  rcases h with rfl | ⟨hop, hop'⟩
  · rfl
  · rw [move_of_isTurn hop, move_of_isTurn hop']

/-! ### Turtles with equal outlines -/

variable {settings settings' : Settings}

/-- **One operation keeps outlines equal,** or stops both turtles. -/
theorem State.map_outline_step_eq (hfactor : settings.lengthFactor = settings'.lengthFactor)
    {s s' : State} (h : s.outline = s'.outline) {op op' : Operation} (hop : op.SameMove op') :
    (s.step settings op).map outline = (s'.step settings' op').map outline := by
  rw [map_outline_step, map_outline_step, h, hfactor, Outline.move_congr hop]

/-- **Walks keep outlines equal,** or end at the same operation. -/
theorem sameOutcome_walkFrom (hfactor : settings.lengthFactor = settings'.lengthFactor)
    {s s' : State} (h : s.outline = s'.outline) {ops ops' : List Operation}
    (hops : List.Forall₂ Operation.SameMove ops ops') (position : Nat) :
    SameOutcome (fun p p' => p.outline = p'.outline) (walkFrom settings position s ops)
      (walkFrom settings' position s' ops') := by
  induction hops generalizing position s s' with
  | nil => exact .ok h
  | @cons op op' ops ops' hop _ ih =>
    have hnext := State.map_outline_step_eq hfactor h hop
    -- The second walk goes on or is stuck as the outlines say, and they are the same ones.
    cases hstep : s.step settings op with
    | none =>
      rw [hstep, Option.map_none, eq_comm, Option.map_eq_none_iff] at hnext
      rw [walkFrom_cons_of_stuck hstep, walkFrom_cons_of_stuck hnext]
      exact .error _
    | some p =>
      rw [hstep, Option.map_some, eq_comm, Option.map_eq_some_iff] at hnext
      obtain ⟨p', hstep', hp⟩ := hnext
      rw [walkFrom_cons_of_step hstep, walkFrom_cons_of_step hstep']
      exact ih hp.symm (position + 1)

/-- Walks that differ in turns leave traces of one outline, or fail with the same error. -/
theorem sameOutcome_walk (hstep : settings.step = settings'.step)
    (hfactor : settings.lengthFactor = settings'.lengthFactor) {ops ops' : List Operation}
    (hops : List.Forall₂ Operation.SameMove ops ops') :
    SameOutcome (fun t t' => t.outline = t'.outline) (walk settings ops) (walk settings' ops') := by
  have hstart : (State.start settings).outline = (State.start settings').outline := by
    unfold State.start State.outline Frame.start
    rw [hstep]
  -- Both turtles start with the same step, and that is all an outline has at the start.
  have hwalk := sameOutcome_walkFrom hfactor hstart hops 0
  have hlength : ops.length = ops'.length := hops.length_eq
  unfold walk
  generalize walkFrom settings 0 (.start settings) ops = result at hwalk
  generalize walkFrom settings' 0 (.start settings') ops' = result' at hwalk
  cases hwalk with
  | error e => exact .error e
  | @ok s s' h =>
    -- As many branches are open in the end, so both walks are complete or neither is.
    have hopen : s.saved.length = s'.saved.length := by
      have hsteps := congrArg (fun o => o.savedSteps.length) h
      simpa [State.outline] using hsteps
    have htrace : s.trace.outline = s'.trace.outline := congrArg Outline.trace h
    have hempty : s.saved.isEmpty = s'.saved.isEmpty := by
      rw [Bool.eq_iff_iff, List.isEmpty_iff, List.isEmpty_iff, ← List.length_eq_zero_iff, hopen,
        List.length_eq_zero_iff]
    change SameOutcome _ (if s.saved.isEmpty then .ok s.trace else .error _)
      (if s'.saved.isEmpty then .ok s'.trace else .error _)
    rw [← hempty, ← hlength, ← hopen]
    split
    · exact .ok htrace
    · exact .error _

/-- **Topology does not depend on orientation.** Two turtles take the same steps and scale them
alike, and along a word they do the same, except that where one of them turns, the other turns
as well, in another way or not at all. Then both fail with the same error, or they leave as many
events, with breaks in the same places, so that the assembled buffers have the same counts and as
many coordinates. -/
theorem topology_trace {r r' : Repertoire} {w : Word} (hstep : settings.step = settings'.step)
    (hfactor : settings.lengthFactor = settings'.lengthFactor)
    (hops : ∀ s ∈ w, (r.operation s).SameMove (r'.operation s)) :
    SameOutcome (fun t t' : Trace =>
        t.size = t'.size ∧ (∀ i : Nat, t.toList[i]? = some .break ↔ t'.toList[i]? = some .break) ∧
        ∀ curve curve' : Curve.Settings, ∃ b b' : Buffer,
          assemble curve t = .ok b ∧ assemble curve' t' = .ok b' ∧
          b.vertexCounts = b'.vertexCounts ∧ b.positions.size = b'.positions.size ∧
          b.normals.size = b'.normals.size)
      (trace settings r w) (trace settings' r' w) := by
  have hmoves : List.Forall₂ Operation.SameMove (w.map r.operation) (w.map r'.operation) := by
    rw [List.forall₂_map_left_iff, List.forall₂_map_right_iff, List.forall₂_same]
    exact hops
  refine (sameOutcome_walk hstep hfactor hmoves).imp fun t t' h => ⟨?_, fun i => ?_, ?_⟩
  · rw [← t.length_outline, ← t'.length_outline, h]
  · rw [← t.getElem?_outline_eq_true_iff, ← t'.getElem?_outline_eq_true_iff, h]
  · intro curve curve'
    have halike := alike_assembled h curve curve'
    exact ⟨_, _, assemble_eq curve t, assemble_eq curve' t', halike.vertexCounts,
      halike.size_positions, halike.size_normals⟩

/-- One turtle yaws where the other one rolls by an angle that is not a number, so that it does
not know any more where it is. It still ends its strands where the first one does. -/
theorem topology_of_lost_turtle :
    let r : Repertoire := ⟨#[.forward, .yaw 1, .branchStart, .branchEnd, .scaleStep, .move]⟩
    let r' : Repertoire :=
      ⟨#[.forward, .roll (0 / 0), .branchStart, .branchEnd, .scaleStep, .move]⟩
    let w : Word := [0, 1, 2, 4, 0, 1, 0, 5, 3, 0, 1, 0]
    (∀ s ∈ w, (r.operation s).SameMove (r'.operation s)) ∧
    ∃ t t', trace {} r w = .ok t ∧ trace { angle := 17 } r' w = .ok t' ∧
      t.size = t'.size ∧ ∀ i : Nat, t.toList[i]? = some .break ↔ t'.toList[i]? = some .break := by
  intro r r' w
  have hall : w.all (fun s => decide ((r.operation s).SameMove (r'.operation s))) = true := by
    decide
  have hops : ∀ s ∈ w, (r.operation s).SameMove (r'.operation s) :=
    fun s hs => of_decide_eq_true (List.all_eq_true.1 hall s hs)
  -- A turn by what is no number leaves the branches as they are.
  have hbalanced : Balanced (w.map r.operation) := by decide
  obtain ⟨t, ht⟩ := hbalanced.exists_walk {}
  have htrace : trace {} r w = .ok t := ht
  have hsame := @topology_trace {} { angle := 17 } r r' w rfl rfl hops
  rw [htrace] at hsame
  refine ⟨hops, t, ?_⟩
  generalize trace { angle := 17 } r' w = result at hsame ⊢
  cases hsame with
  | ok h => exact ⟨_, htrace, rfl, h.1, h.2.1⟩

end LSystem.Turtle
