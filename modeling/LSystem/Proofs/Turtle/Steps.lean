import LSystem.Proofs.Ribbon.Loading
import LSystem.Proofs.Single
import LSystem.Proofs.Turtle.Stance

/-!
# Steps that are numbers

A turtle takes every step that is not at most zero, and a NaN is not at most zero. So it takes
positive steps only, as long as its steps are numbers. With finite settings they always are. To be
sure, a step that is scaled again and again may become infinite, and an infinity times zero would be
a NaN. But a step becomes infinite only by a factor that is not zero, and the factor stays the same.

Hence a step is never a NaN, and is infinite only if the factor is not zero. Scaling keeps both
together (`Scalable.mul`), nothing else changes a step (`Scalable.follow`), and so all frames on the
way have such steps, those of the open branches included (`scalable_of_walkFrom`).
-/

namespace LSystem.Turtle

open Single

variable {settings : Settings} {factor x : Float32}

/-! ### Scaling -/

/-- A step that is a number, and stays one if it is multiplied by a finite factor. -/
structure Scalable (factor x : Float32) : Prop where
  isNaN_eq : x.isNaN = false
  factor_ne : x.isInf = true → (factor == 0) = false

theorem Scalable.of_isFinite (h : x.isFinite = true) : Scalable factor x where
  isNaN_eq := (isFinite_iff.1 h).1
  factor_ne hinf := by
    rw [(isFinite_iff.1 h).2] at hinf
    cases hinf

theorem Scalable.mul (h : Scalable factor x) (hfactor : factor.isFinite = true) :
    Scalable factor (x * factor) where
  isNaN_eq := by
    obtain ⟨hnan, hinf⟩ := isFinite_iff.1 hfactor
    rw [← Bool.not_eq_true, isNaN_mul_iff, h.isNaN_eq, hnan, hinf]
    rintro (hx | hf | ⟨hx, hzero⟩ | ⟨-, hf⟩)
    · cases hx
    · cases hf
    · rw [h.factor_ne hx] at hzero
      cases hzero
    · cases hf
  factor_ne hinf := (ne_zero_of_isInf_mul hinf).2

/-- **What an operation makes of a step** stays a number as well. -/
theorem Scalable.follow (hfactor : settings.lengthFactor.isFinite = true) (f : Frame)
    (op : Operation) (h : Scalable settings.lengthFactor f.step) :
    Scalable settings.lengthFactor (f.follow settings op).step := by
  cases op with
  | scaleStep => exact h.mul hfactor
  | forward | move =>
    rw [Frame.follow]
    split <;> exact h
  | yaw | pitch | roll | turnAround | branchStart | branchEnd | ignore => exact h

theorem scalable_of_walkFrom (h : settings.validate = .ok ()) {position : Nat} {s : State}
    {ops : List Operation} (hwalk : walkFrom settings position (.start settings) ops = .ok s) :
    ∀ f ∈ s.stance.frames, Scalable settings.lengthFactor f.step := by
  have hsettings := Settings.validate_eq_ok_iff.1 h
  simp only [Settings.toList, List.forall_mem_cons] at hsettings
  obtain ⟨hstep, -, hfactor, -⟩ := hsettings
  refine forall_frames_of_walkFrom (Scalable.follow hfactor) hwalk fun f hf => ?_
  rw [List.mem_singleton.1 hf]
  exact .of_isFinite hstep

/-! ### Taking steps -/

namespace State

variable {s : State} {op : Operation}

/-- A step that is at most zero is no step. -/
private theorem step_of_le (hop : op = .forward ∨ op = .move) (h : s.frame.step ≤ 0) :
    s.step settings op = some s := by
  have hcan : s.canStep = false := by rw [canStep, decide_eq_true h, Bool.not_true]
  rcases hop with rfl | rfl <;> simp [step, hcan]

/-- Every other step leads on. -/
private theorem exists_step_of_not_le (settings : Settings) (hop : op = .forward ∨ op = .move)
    (h : ¬ s.frame.step ≤ 0) :
    ∃ s', s.step settings op = some s' ∧ s'.stance = ⟨s.frame.advance s.frame.step, s.saved⟩ := by
  have hstance : (s.step settings op).map stance =
      some ⟨s.frame.advance s.frame.step, s.saved⟩ := by
    rw [map_stance_step]
    rcases hop with rfl | rfl <;>
    · change some (Stance.mk (s.frame.follow settings _) s.saved) = _
      rw [Frame.follow, if_neg h]
  exact Option.map_eq_some_iff.1 hstance

end State

/-- **A step of valid settings is a number,** at every point of every walk and in all frames that
the turtle can come back to. So a forward step or a move either leaves the turtle as it is, if its
step is at most zero, or takes it a positive step further. -/
theorem positive_step_of_validate (h : settings.validate = .ok ()) (r : Repertoire) (w : Word)
    (n : Nat) {s : State}
    (hwalk : walkFrom settings 0 (.start settings) ((w.take n).map r.operation) = .ok s) :
    (∀ f ∈ s.frame :: s.saved, f.step.isNaN = false) ∧
    ∀ op, op = .forward ∨ op = .move →
      (s.frame.step ≤ 0 ∧ s.step settings op = some s) ∨
      (0 < s.frame.step ∧ ∃ s', s.step settings op = some s' ∧
        s'.frame = s.frame.advance s.frame.step ∧ s'.saved = s.saved) := by
  have hscalable := scalable_of_walkFrom h hwalk
  refine ⟨fun f hf => (hscalable f hf).isNaN_eq, fun op hop => ?_⟩
  by_cases hle : s.frame.step ≤ 0
  · exact .inl ⟨hle, State.step_of_le hop hle⟩
  · have hnan := (hscalable s.frame List.mem_cons_self).isNaN_eq
    obtain ⟨s', hstep, hstance⟩ := State.exists_step_of_not_le settings hop hle
    exact .inr ⟨pos_of_not_le hnan hle, s', hstep, congrArg Stance.frame hstance,
      congrArg Stance.saved hstance⟩

/-- Scaled up twice in a branch, the step is too great for a number, and still it is positive. -/
theorem positive_step_of_overflow :
    let settings : Settings := { step := 3e38, lengthFactor := 10 }
    let r : Repertoire := ⟨#[.branchStart, .scaleStep, .forward, .branchEnd]⟩
    let w : Word := [0, 1, 1, 2, 3, 2]
    settings.validate = .ok () ∧
    ∃ s, walkFrom settings 0 (.start settings) ((w.take 3).map r.operation) = .ok s ∧
      s.saved.map Frame.step = [3e38] ∧ s.frame.step.isInf = true ∧
      (∀ f ∈ s.frame :: s.saved, f.step.isNaN = false) ∧
      0 < s.frame.step ∧ ∃ s', s.step settings .forward = some s' ∧
        s'.frame = s.frame.advance s.frame.step := by
  intro settings r w
  have hvalid : settings.validate = .ok () := by
    rw [Settings.validate_eq_ok_iff]
    decide +kernel
  obtain ⟨s, hwalk, hsaved, hinf, hnot⟩ : ∃ s : State,
      walkFrom settings 0 (.start settings) ((w.take 3).map r.operation) = .ok s ∧
      s.saved.map Frame.step = [3e38] ∧ s.frame.step.isInf = true ∧ ¬ s.frame.step ≤ 0 :=
    ⟨_, rfl, rfl, by decide +kernel, by decide +kernel⟩
  obtain ⟨hnan, hsteps⟩ := positive_step_of_validate hvalid r w 3 hwalk
  -- The step is too great for a single, and that is no reason to stand still.
  rcases hsteps .forward (.inl rfl) with ⟨hle, -⟩ | ⟨hpos, s', hstep, hframe, -⟩
  · exact absurd hle hnot
  · exact ⟨hvalid, s, hwalk, hsaved, hinf, hnan, hpos, s', hstep, hframe⟩

end LSystem.Turtle
