import LSystem.Proofs.Turtle.Walk

/-!
# Where a turtle goes

What a turtle draws has no say in where it goes. That depends on its *stance* alone: its frame and
the frames of the open branches. `State.map_stance_step` says what an operation does to a stance,
without the trace and the marks that a turtle keeps for it. Hence of two turtles with one stance
either both get to the end of some operations or none does, and in the end they have one stance
again (`exists_walkFrom_of_stance`).

The frames of a stance are all that a turtle can get to without leaving the place of a branch. An
operation adds none to them but the one that follows the current frame, so that a property of the
first frame that goes on from each frame to the one that follows it is a property of all frames on
the way (`forall_frames_of_walkFrom`).
-/

namespace LSystem.Turtle

/-- The frame of a turtle and the frames of the open branches, the innermost one first. -/
structure Stance where
  frame : Frame
  saved : List Frame
deriving DecidableEq, Repr

def State.stance (s : State) : Stance := ⟨s.frame, s.saved⟩

/-- The frame after an operation that neither begins nor ends a branch. -/
def Frame.follow (settings : Settings) (f : Frame) : Operation → Frame
  | .forward | .move => if f.step ≤ 0 then f else f.advance f.step
  | .yaw factor => f.yaw (settings.radians * factor)
  | .pitch factor => f.pitch (settings.radians * factor)
  | .roll factor => f.roll (settings.radians * factor)
  | .turnAround => f.yaw State.halfTurn
  | .scaleStep => { f with step := f.step * settings.lengthFactor }
  | .branchStart | .branchEnd | .ignore => f

/-- The stance after an operation. -/
def Stance.step (settings : Settings) (p : Stance) : Operation → Option Stance
  | .branchStart => some ⟨p.frame, p.frame :: p.saved⟩
  | .branchEnd =>
    match p.saved with
    | f :: saved => some ⟨f, saved⟩
    | [] => none
  | op => some ⟨p.frame.follow settings op, p.saved⟩

namespace State

variable {settings : Settings} {s s' p : State} {op : Operation}

/-- **What an operation does to a stance.** -/
theorem map_stance_step (settings : Settings) (s : State) (op : Operation) :
    (s.step settings op).map stance = s.stance.step settings op := by
  cases op with
  | forward =>
    by_cases hstep : s.frame.step ≤ 0
    · simp [step, canStep, Stance.step, Frame.follow, stance, hstep]
    · -- Drawing the anchor and the point leaves the stance alone.
      have hanchor : s.drawAnchor.frame = s.frame ∧ s.drawAnchor.saved = s.saved := by
        unfold drawAnchor
        split <;> exact ⟨rfl, rfl⟩
      simp [step, canStep, Stance.step, Frame.follow, stance, hstep, drawPoint, advance, hanchor]
  | move =>
    by_cases hstep : s.frame.step ≤ 0
    · simp [step, canStep, Stance.step, Frame.follow, stance, hstep]
    · simp [step, canStep, Stance.step, Frame.follow, stance, hstep, breakStrand, advance]
  | branchStart =>
    -- So does putting the beginning of the root in front.
    rw [step, anchorRoot]
    split <;> rfl
  | branchEnd =>
    rw [step, Stance.step, stance]
    cases s.saved <;> rfl
  | yaw factor | pitch factor | roll factor | turnAround | scaleStep | ignore => rfl

theorem stance_step_of_step (h : s.step settings op = some s') :
    s.stance.step settings op = some s'.stance := by
  rw [← map_stance_step, h, Option.map_some]

theorem map_stance_step_of_stance (settings : Settings) (op : Operation)
    (h : s.stance = p.stance) :
    (s.step settings op).map stance = (p.step settings op).map stance := by
  rw [map_stance_step, map_stance_step, h]

/-- What one turtle can carry out, every turtle of its stance can. -/
theorem exists_step_of_stance (h : s.stance = p.stance) (hstep : s.step settings op = some s') :
    ∃ p', p.step settings op = some p' ∧ s'.stance = p'.stance := by
  have hmap := map_stance_step_of_stance settings op h
  rw [hstep, Option.map_some, eq_comm, Option.map_eq_some_iff] at hmap
  obtain ⟨p', hp', hstance⟩ := hmap
  exact ⟨p', hp', hstance.symm⟩

theorem step_eq_none_of_stance (h : s.stance = p.stance) (hstep : s.step settings op = none) :
    p.step settings op = none := by
  have hmap := map_stance_step_of_stance settings op h
  rw [hstep, Option.map_none, eq_comm, Option.map_eq_none_iff] at hmap
  exact hmap

end State

/-- **Turtles with one stance go the same way.** -/
theorem exists_walkFrom_of_stance {settings : Settings} {position : Nat} {s s' p : State}
    {ops : List Operation} (h : s.stance = p.stance)
    (hwalk : walkFrom settings position s ops = .ok s') (position' : Nat) :
    ∃ p', walkFrom settings position' p ops = .ok p' ∧ s'.stance = p'.stance := by
  -- Positions are there for the errors only, so the two need not be the same.
  induction ops generalizing position position' s p with
  | nil =>
    rw [walkFrom_nil, Except.ok.injEq] at hwalk
    subst hwalk
    exact ⟨p, rfl, h⟩
  | cons op ops ih =>
    obtain ⟨s₁, hstep, hrest⟩ := exists_step_of_walkFrom_cons hwalk
    obtain ⟨p₁, hstep', h₁⟩ := State.exists_step_of_stance h hstep
    obtain ⟨p', hrest', h'⟩ := ih h₁ hrest (position' + 1)
    exact ⟨p', by rw [walkFrom_cons_of_step hstep', hrest'], h'⟩

/-- If no branch is open where one of them gets to, none is open where the other one does. -/
theorem exists_closed_walkFrom_of_stance {settings : Settings} {position : Nat} {s s' p : State}
    {ops : List Operation} (h : s.stance = p.stance)
    (hwalk : walkFrom settings position s ops = .ok s') (hclosed : s'.saved = [])
    (position' : Nat) : ∃ p', walkFrom settings position' p ops = .ok p' ∧ p'.saved = [] := by
  obtain ⟨p', hwalk', hstance⟩ := exists_walkFrom_of_stance h hwalk position'
  have hsaved : s'.saved = p'.saved := congrArg Stance.saved hstance
  exact ⟨p', hwalk', hsaved ▸ hclosed⟩

/-! ### Frames on the way -/

section

variable {settings : Settings}

/-- The frame of a turtle and those to come back to. -/
def Stance.frames (p : Stance) : List Frame := p.frame :: p.saved

/-- **Where frames come from.** -/
theorem Stance.mem_frames_of_step {p p' : Stance} {op : Operation} {f : Frame}
    (h : p.step settings op = some p') (hf : f ∈ p'.frames) :
    f ∈ p.frames ∨ f = p.frame.follow settings op := by
  cases op with
  | branchStart =>
    cases h
    rcases List.mem_cons.1 hf with hcurrent | hold
    · exact .inr hcurrent
    · exact .inl hold
  | branchEnd =>
    -- The frame that is gone back to was there before, and so were those below it.
    obtain ⟨frame, _ | ⟨top, saved⟩⟩ := p
    · cases h
    · cases h
      exact .inl (List.mem_cons_of_mem frame hf)
  | forward | move | yaw | pitch | roll | turnAround | scaleStep | ignore =>
    cases h
    rcases List.mem_cons.1 hf with hcurrent | hsaved
    · exact .inr hcurrent
    · exact .inl (List.mem_cons_of_mem _ hsaved)

/-- What goes on from each frame to the one that follows it is true of all frames on the way. -/
theorem forall_frames_of_walkFrom {P : Frame → Prop}
    (hfollow : ∀ f op, P f → P (f.follow settings op)) {position : Nat} {s s' : State}
    {ops : List Operation} (hwalk : walkFrom settings position s ops = .ok s')
    (hs : ∀ f ∈ s.stance.frames, P f) : ∀ f ∈ s'.stance.frames, P f := by
  induction ops generalizing position s with
  | nil =>
    rw [walkFrom_nil, Except.ok.injEq] at hwalk
    exact hwalk ▸ hs
  | cons op ops ih =>
    obtain ⟨s₁, hstep, hrest⟩ := exists_step_of_walkFrom_cons hwalk
    refine ih hrest fun f hf => ?_
    -- After a step each frame is one of before, or the current one followed by the step.
    rcases Stance.mem_frames_of_step (State.stance_step_of_step hstep) hf with hold | rfl
    · exact hs f hold
    · exact hfollow _ op (hs _ List.mem_cons_self)

end

end LSystem.Turtle
