import LSystem.Proofs.Turtle.Stance

/-!
# Journeys

A walk that gets to its end is a *journey* of one *leg* for every operation: the operation, and
the frames of the turtle before and after it. Legs are of three kinds. A leg draws if it is a
forward step that leads anywhere; it breaks the strand if it begins or ends a branch, or is a
move that leads anywhere; every other leg is quiet. `State.step_effect` says what a leg of each
kind does to the state, and is the only place where the operations are looked at one by one.

Where the turtle goes depends on its stance only, so turtles with one stance make the same journey
(`journeyFrom_of_stance`).

The breaks cut a journey into sections (`sections`), one behind every break and one in front of
them (`length_sections_snd`). No leg that draws is lost with it (`filter_draws_eq`).
-/

namespace LSystem.Turtle

open Curve

/-! ### Legs -/

/-- An operation as it was carried out. -/
structure Leg where
  op : Operation
  before : Frame
  after : Frame
deriving DecidableEq, Repr

namespace Leg

/-- Whether the leg draws a segment. -/
def draws (l : Leg) : Bool :=
  match l.op with
  | .forward => !(l.before.step ≤ 0)
  | _ => false

/-- Whether the leg ends a strand. -/
def breaks (l : Leg) : Bool :=
  match l.op with
  | .branchStart | .branchEnd => true
  | .move => !(l.before.step ≤ 0)
  | _ => false

/-- A leg that ends a strand draws nothing. -/
theorem draws_eq_false_of_breaks {l : Leg} (h : l.breaks = true) : l.draws = false := by
  unfold draws
  unfold breaks at h
  split
  · next hop => rw [hop] at h; cases h
  · rfl

/-- From where the turtle was to where it is. -/
def segment (l : Leg) : Space.Vec3 × Space.Vec3 := (l.before.position, l.after.position)

end Leg

/-- The legs of a walk from a state. -/
def journeyFrom (settings : Settings) (s : State) : List Operation → List Leg
  | [] => []
  | op :: ops =>
    match s.step settings op with
    | some s' => ⟨op, s.frame, s'.frame⟩ :: journeyFrom settings s' ops
    | none => []

/-- **The journey along a word.** -/
def journey (settings : Settings) (r : Repertoire) (w : Word) : List Leg :=
  journeyFrom settings (.start settings) (w.map r.operation)

theorem journeyFrom_cons_of_step {settings : Settings} {s s' : State} {op : Operation}
    (h : s.step settings op = some s') (ops : List Operation) :
    journeyFrom settings s (op :: ops) =
      ⟨op, s.frame, s'.frame⟩ :: journeyFrom settings s' ops := by
  rw [journeyFrom, h]

/-- Turtles with one stance make the same journey. -/
theorem journeyFrom_of_stance {settings : Settings} {s p : State} (h : s.stance = p.stance)
    (ops : List Operation) : journeyFrom settings s ops = journeyFrom settings p ops := by
  -- Both walks get stuck at the same step, and up to it the frames are the same.
  induction ops generalizing s p with
  | nil => rfl
  | cons op ops ih =>
    cases hstep : s.step settings op with
    | none => rw [journeyFrom, journeyFrom, hstep, State.step_eq_none_of_stance h hstep]
    | some s₁ =>
      obtain ⟨p₁, hstep', h₁⟩ := State.exists_step_of_stance h hstep
      have hframe : s.frame = p.frame := congrArg Stance.frame h
      have hframe₁ : s₁.frame = p₁.frame := congrArg Stance.frame h₁
      rw [journeyFrom_cons_of_step hstep, journeyFrom_cons_of_step hstep', ih h₁, hframe, hframe₁]

/-- A journey goes on where its first part ends. -/
theorem journeyFrom_append {settings : Settings} {position : Nat} {s s' : State}
    {ops : List Operation} (h : walkFrom settings position s ops = .ok s')
    (ops' : List Operation) :
    journeyFrom settings s (ops ++ ops') =
      journeyFrom settings s ops ++ journeyFrom settings s' ops' := by
  induction ops generalizing position s with
  | nil =>
    rw [walkFrom_nil, Except.ok.injEq] at h
    subst h
    rfl
  | cons op ops ih =>
    obtain ⟨s₁, hstep, hwalk⟩ := exists_step_of_walkFrom_cons h
    rw [List.cons_append, journeyFrom_cons_of_step hstep, journeyFrom_cons_of_step hstep, ih hwalk,
      List.cons_append]

/-- A walk that gets to its end has a leg for every operation. -/
theorem map_op_journeyFrom {settings : Settings} {position : Nat} {s s' : State}
    {ops : List Operation} (h : walkFrom settings position s ops = .ok s') :
    (journeyFrom settings s ops).map Leg.op = ops := by
  induction ops generalizing position s with
  | nil => rfl
  | cons op ops ih =>
    obtain ⟨s₁, hstep, hwalk⟩ := exists_step_of_walkFrom_cons h
    rw [journeyFrom_cons_of_step hstep, List.map_cons, ih hwalk]

/-- The journey along a word that has a trace carries out the whole word. -/
theorem map_op_journey {settings : Settings} {r : Repertoire} {w : Word} {t : Trace}
    (h : trace settings r w = .ok t) :
    (journey settings r w).map Leg.op = w.map r.operation := by
  obtain ⟨s, hwalk, -, -⟩ := walk_eq_ok_iff.1 h
  exact map_op_journeyFrom hwalk

/-! ### Effects -/

/-- What a leg does to the state of a turtle, by kinds of legs. -/
inductive Effect (settings : Settings) (s s' : State) (l : Leg) : Prop
  /-- A point is drawn, behind the anchor if there is one. -/
  | draw (draws : l.draws = true) (breaks : l.breaks = false)
      (state_eq : s' = s.drawAnchor.advance.drawPoint)
  /-- The strand ends and the next one begins under the turtle. The beginning of the root may be
  put in front of the trace before that. -/
  | «break» (draws : l.draws = false) (breaks : l.breaks = true) (rooted : State)
      (rooted_eq : rooted =
        if l.op = .branchStart then s.anchorRoot (.at (.start settings.step)) else s)
      (state_eq : s' = { rooted with frame := s'.frame, saved := s'.saved }.breakStrand)
  /-- The turtle stays where it is, and nothing but its frame changes. -/
  | quiet (draws : l.draws = false) (breaks : l.breaks = false)
      (position_eq : s'.frame.position = s.frame.position) (state_eq : s' = s.setFrame s'.frame)

/-- **What an operation does.** -/
theorem State.step_effect {settings : Settings} {s s' : State} {op : Operation}
    (h : s.step settings op = some s') : Effect settings s s' ⟨op, s.frame, s'.frame⟩ := by
  cases op with
  | forward =>
    rw [State.step, Option.some.injEq] at h
    cases hcan : s.canStep with
    | true =>
      rw [if_pos hcan] at h
      exact .draw hcan rfl h.symm
    | false =>
      rw [hcan, if_neg Bool.false_ne_true] at h
      subst h
      exact .quiet hcan rfl rfl rfl
  | move =>
    rw [State.step, Option.some.injEq] at h
    cases hcan : s.canStep with
    | true =>
      rw [if_pos hcan] at h
      subst h
      exact .break rfl hcan s rfl rfl
    | false =>
      rw [hcan, if_neg Bool.false_ne_true] at h
      subst h
      exact .quiet rfl hcan rfl rfl
  | branchStart =>
    rw [State.step, Option.some.injEq] at h
    subst h
    -- Only here is something put in front of the trace.
    refine .break rfl rfl (s.anchorRoot (.at (.start settings.step))) rfl ?_
    unfold anchorRoot
    split <;> rfl
  | branchEnd =>
    rw [State.step] at h
    cases hsaved : s.saved with
    | nil => rw [hsaved] at h; cases h
    | cons f saved =>
      -- The frame goes back to where the branch began, which is the frame after the leg.
      rw [hsaved, Option.some.injEq] at h
      subst h
      exact .break rfl rfl s rfl rfl
  | yaw factor | pitch factor | roll factor | turnAround | scaleStep | ignore =>
    rw [State.step, Option.some.injEq] at h
    subst h
    exact .quiet rfl rfl rfl rfl

/-! ### Sections -/

/-- **The sections of a journey:** the legs before the first break, and for every break the leg
that it is and the legs up to the next one. -/
def sections : List Leg → List Leg × List (Leg × List Leg)
  | [] => ([], [])
  | l :: ls =>
    if l.breaks then ([], (l, (sections ls).1) :: (sections ls).2)
    else (l :: (sections ls).1, (sections ls).2)

theorem sections_cons_of_breaks {l : Leg} (h : l.breaks = true) (ls : List Leg) :
    sections (l :: ls) = ([], (l, (sections ls).1) :: (sections ls).2) := by
  rw [sections, if_pos h]

theorem sections_cons_of_not_breaks {l : Leg} (h : l.breaks = false) (ls : List Leg) :
    sections (l :: ls) = (l :: (sections ls).1, (sections ls).2) := by
  rw [sections, h, if_neg Bool.false_ne_true]

/-- A break starts a section, whatever stands in front of it. -/
theorem sections_append_cons {l : Leg} (h : l.breaks = true) (before behind : List Leg) :
    sections (before ++ l :: behind) =
      ((sections before).1,
        (sections before).2 ++ (l, (sections behind).1) :: (sections behind).2) := by
  induction before with
  | nil => exact sections_cons_of_breaks h behind
  | cons a before ih =>
    rw [List.cons_append]
    cases ha : a.breaks with
    | true => rw [sections_cons_of_breaks ha, sections_cons_of_breaks ha, ih, List.cons_append]
    | false => rw [sections_cons_of_not_breaks ha, sections_cons_of_not_breaks ha, ih]

/-- There is a section behind every break. -/
theorem length_sections_snd (ls : List Leg) : (sections ls).2.length = ls.countP Leg.breaks := by
  induction ls with
  | nil => rfl
  | cons a ls ih =>
    cases ha : a.breaks with
    | true =>
      rw [sections_cons_of_breaks ha, List.countP_cons_of_pos ha, ← ih]
      rfl
    | false =>
      rw [sections_cons_of_not_breaks ha, List.countP_cons_of_neg (by simp [ha]), ← ih]

/-- The legs that draw are found in the sections, in the same order. -/
theorem filter_draws_eq (ls : List Leg) :
    ls.filter Leg.draws =
      (sections ls).1.filter Leg.draws ++ (sections ls).2.flatMap (·.2.filter Leg.draws) := by
  induction ls with
  | nil => rfl
  | cons a ls ih =>
    cases ha : a.breaks with
    | true =>
      -- The break itself draws nothing.
      have hdraws := Leg.draws_eq_false_of_breaks ha
      simp [sections_cons_of_breaks ha, hdraws, ih]
    | false =>
      rw [sections_cons_of_not_breaks ha, List.filter_cons, List.filter_cons, ih]
      split <;> rfl

end LSystem.Turtle
