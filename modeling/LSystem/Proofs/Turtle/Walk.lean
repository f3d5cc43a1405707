import LSystem.Turtle.Repertoire

/-!
# Walks in parts

A walk along a list of operations is a walk along its first part, followed by a walk along
the rest from the state that the first part leads to (`walkFrom_append`). A trace comes out of
a walk that gets to its end with no branch left open (`walk_eq_ok_iff`), so that operations in two
parts leave one if the second part ends in this way (`exists_walk_append_iff`).
-/

namespace LSystem.Turtle

open Curve

variable (settings : Settings)

@[simp] theorem walkFrom_nil (position : Nat) (s : State) :
    walkFrom settings position s [] = .ok s := rfl

/-- A walk goes on after an operation that can be carried out. -/
theorem walkFrom_cons_of_step {settings : Settings} {s s' : State} {op : Operation}
    (h : s.step settings op = some s') (position : Nat) (ops : List Operation) :
    walkFrom settings position s (op :: ops) = walkFrom settings (position + 1) s' ops := by
  rw [walkFrom, h]

/-- A walk ends at an operation that cannot be carried out. -/
theorem walkFrom_cons_of_stuck {settings : Settings} {s : State} {op : Operation}
    (h : s.step settings op = none) (position : Nat) (ops : List Operation) :
    walkFrom settings position s (op :: ops) = .error (.unbalanced position 0) := by
  rw [walkFrom, h]

/-- A walk that gets to its end began with an operation that could be carried out. -/
theorem exists_step_of_walkFrom_cons {settings : Settings} {position : Nat} {s s' : State}
    {op : Operation} {ops : List Operation}
    (h : walkFrom settings position s (op :: ops) = .ok s') :
    ∃ s₁, s.step settings op = some s₁ ∧ walkFrom settings (position + 1) s₁ ops = .ok s' := by
  cases hstep : s.step settings op with
  | some s₁ =>
    rw [walkFrom_cons_of_step hstep] at h
    exact ⟨s₁, rfl, h⟩
  | none =>
    rw [walkFrom_cons_of_stuck hstep] at h
    cases h

/-- **A walk goes through a concatenation part by part.** -/
theorem walkFrom_append (position : Nat) (s : State) (ops ops' : List Operation) :
    walkFrom settings position s (ops ++ ops') =
      (walkFrom settings position s ops).bind fun s' =>
        walkFrom settings (position + ops.length) s' ops' := by
  induction ops generalizing position s with
  | nil => rfl
  | cons op ops ih =>
    rw [List.cons_append]
    cases hstep : s.step settings op with
    | some s₁ =>
      rw [walkFrom_cons_of_step hstep, walkFrom_cons_of_step hstep, ih, List.length_cons,
        Nat.add_right_comm, Nat.add_assoc]
    | none => rw [walkFrom_cons_of_stuck hstep, walkFrom_cons_of_stuck hstep]; rfl

/-- A walk that gets to its end goes through the state between its parts. -/
theorem walkFrom_append_eq_ok_iff {settings : Settings} {position : Nat} {s s' : State}
    {ops ops' : List Operation} :
    walkFrom settings position s (ops ++ ops') = .ok s' ↔
      ∃ s₁, walkFrom settings position s ops = .ok s₁ ∧
        walkFrom settings (position + ops.length) s₁ ops' = .ok s' := by
  rw [walkFrom_append]
  cases walkFrom settings position s ops <;> simp [Except.bind]

/-- What a walk comes to, when it gets to its end. -/
theorem walk_of_walkFrom {settings : Settings} {ops : List Operation} {s : State}
    (h : walkFrom settings 0 (.start settings) ops = .ok s) :
    walk settings ops =
      if s.saved.isEmpty then .ok s.trace
      else .error (.unbalanced ops.length s.saved.length) := by
  rw [walk, h]
  rfl

/-- What a walk comes to, when it ends before. -/
theorem walk_of_walkFrom_error {settings : Settings} {ops : List Operation} {e : Error}
    (h : walkFrom settings 0 (.start settings) ops = .error e) :
    walk settings ops = .error e := by
  rw [walk, h]
  rfl

/-- A trace is left by a walk that gets to its end and leaves no branch open. -/
theorem walk_eq_ok_iff {settings : Settings} {ops : List Operation} {t : Trace} :
    walk settings ops = .ok t ↔
      ∃ s, walkFrom settings 0 (.start settings) ops = .ok s ∧ s.saved = [] ∧ s.trace = t := by
  cases h : walkFrom settings 0 (.start settings) ops with
  | error e => simp [walk_of_walkFrom_error h]
  | ok s =>
    rw [walk_of_walkFrom h]
    cases hs : s.saved <;> simp [hs]

/-- Operations in two parts leave a trace if the second part leads from the end of the first one to
where no branch is open. -/
theorem exists_walk_append_iff {settings : Settings} {ops ops' : List Operation} :
    (∃ t, walk settings (ops ++ ops') = .ok t) ↔
      ∃ s s', walkFrom settings 0 (.start settings) ops = .ok s ∧
        walkFrom settings (0 + ops.length) s ops' = .ok s' ∧ s'.saved = [] := by
  constructor
  · rintro ⟨t, ht⟩
    obtain ⟨s', hwalk, hclosed, -⟩ := walk_eq_ok_iff.1 ht
    obtain ⟨s, hs, hs'⟩ := walkFrom_append_eq_ok_iff.1 hwalk
    exact ⟨s, s', hs, hs', hclosed⟩
  · rintro ⟨s, s', hs, hs', hclosed⟩
    have hwalk := walkFrom_append_eq_ok_iff.2 ⟨s, hs, hs'⟩
    exact ⟨s'.trace, walk_eq_ok_iff.2 ⟨s', hwalk, hclosed, rfl⟩⟩

end LSystem.Turtle
