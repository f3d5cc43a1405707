import LSystem.Proofs.Turtle.Stance
import Mathlib.Data.List.Forall2
import Mathlib.Data.Nat.Find
import Mathlib.Order.Bounds.Basic

/-!
# Branches and their depth

Whether a walk gets to its end depends on its branches alone: on how many of them a prefix of
the operations begins and ends. Counts of a whole prefix say little about the next operation,
so everything goes through a *depth*, the number of open branches, which one operation changes
by at most one (`depthStep`). There is no depth after the end of a branch that has not begun.

* `length_saved_step`: the depth is the number of frames that the turtle remembers.
* `depth?_eq_some_iff`: a depth exists, and is `m`, exactly if no prefix ends more branches than
  are open, and the totals leave `m`.
* `depth?_flatten`: operations may be replaced by lists of operations with the same effect on the
  depth. This is what keeps words balanced while they are expanded.

`trace_of_branches` says what becomes of every word. The first prefix that ends too many branches
stops the walk at its last symbol. If there is none, what is left open at the end is an error,
and otherwise there is a trace.
-/

namespace LSystem.Turtle

open Curve

/-! ### Counting -/

/-- The number of branches that begin. -/
def branchStarts (ops : List Operation) : Nat := ops.count .branchStart

/-- The number of branches that end. -/
def branchEnds (ops : List Operation) : Nat := ops.count .branchEnd

/-- More branches end than begin. -/
def Overclosed (ops : List Operation) : Prop := branchStarts ops < branchEnds ops

/-- **Balanced operations:** no prefix ends more branches than it begins, and in the whole as
many end as begin. -/
structure Balanced (ops : List Operation) : Prop where
  prefix_le : ∀ n, branchEnds (ops.take n) ≤ branchStarts (ops.take n)
  total_eq : branchEnds ops = branchStarts ops

/-- An operation that neither begins nor ends a branch. -/
def Operation.IsNeutral (op : Operation) : Prop := op ≠ .branchStart ∧ op ≠ .branchEnd

instance (op : Operation) : Decidable op.IsNeutral :=
  inferInstanceAs (Decidable (op ≠ .branchStart ∧ op ≠ .branchEnd))

@[simp] theorem branchStarts_nil : branchStarts [] = 0 := rfl

@[simp] theorem branchEnds_nil : branchEnds [] = 0 := rfl

@[simp] theorem branchStarts_append (ops ops' : List Operation) :
    branchStarts (ops ++ ops') = branchStarts ops + branchStarts ops' := List.count_append

@[simp] theorem branchEnds_append (ops ops' : List Operation) :
    branchEnds (ops ++ ops') = branchEnds ops + branchEnds ops' := List.count_append

theorem branchStarts_cons (op : Operation) (ops : List Operation) :
    branchStarts (op :: ops) = branchStarts [op] + branchStarts ops :=
  branchStarts_append [op] ops

theorem branchEnds_cons (op : Operation) (ops : List Operation) :
    branchEnds (op :: ops) = branchEnds [op] + branchEnds ops := branchEnds_append [op] ops

/-! ### Depth -/

/-- The number of open branches after an operation, if there are `n` of them before. -/
def depthStep (n : Nat) : Operation → Option Nat
  | .branchStart => some (n + 1)
  | .branchEnd =>
    match n with
    | 0 => none
    | n + 1 => some n
  | _ => some n

/-- The number of open branches after several operations. -/
def depth? (n : Nat) : List Operation → Option Nat
  | [] => some n
  | op :: ops => (depthStep n op).bind fun m => depth? m ops

@[simp] theorem depth?_nil (n : Nat) : depth? n [] = some n := rfl

@[simp] theorem depth?_singleton (n : Nat) (op : Operation) : depth? n [op] = depthStep n op := by
  rw [depth?]
  cases depthStep n op <;> rfl

theorem depthStep_of_isNeutral {op : Operation} (h : op.IsNeutral) (n : Nat) :
    depthStep n op = some n := by
  obtain ⟨hstart, hend⟩ := h
  cases op <;> first | rfl | contradiction

/-- The depth counts: an operation adds what it begins and takes off what it ends. -/
theorem depthStep_eq_some_iff {n m : Nat} {op : Operation} :
    depthStep n op = some m ↔ n + branchStarts [op] = m + branchEnds [op] := by
  cases op with
  | branchEnd =>
    have hstarts : branchStarts [.branchEnd] = 0 := rfl
    have hends : branchEnds [.branchEnd] = 1 := rfl
    -- Only an end with nothing open has no depth, and it is one more end than there are starts.
    cases n with
    | zero => simp only [depthStep, hstarts, hends]; simp
    | succ n => simp only [depthStep, hstarts, hends, Option.some.injEq]; omega
  | branchStart =>
    have hstarts : branchStarts [.branchStart] = 1 := rfl
    have hends : branchEnds [.branchStart] = 0 := rfl
    simp only [depthStep, hstarts, hends, Option.some.injEq, Nat.add_zero]
  | _ =>
    simp [depthStep, branchStarts, branchEnds]

theorem depth?_append (n : Nat) (ops ops' : List Operation) :
    depth? n (ops ++ ops') = (depth? n ops).bind fun m => depth? m ops' := by
  induction ops generalizing n with
  | nil => rfl
  | cons op ops ih =>
    rw [List.cons_append, depth?, depth?, Option.bind_assoc]
    congr 1
    funext m
    exact ih m

theorem depth?_concat_eq_some_iff {n m : Nat} {ops : List Operation} {op : Operation} :
    depth? n (ops ++ [op]) = some m ↔ ∃ d, depth? n ops = some d ∧ depthStep d op = some m := by
  rw [depth?_append, Option.bind_eq_some_iff]
  simp only [depth?_singleton]

/-- What may happen at some depth may also happen at a greater one. -/
theorem depth?_add {n m : Nat} {ops : List Operation} (h : depth? n ops = some m) (k : Nat) :
    depth? (n + k) ops = some (m + k) := by
  induction ops generalizing n with
  | nil => rw [depth?_nil, Option.some.injEq] at h ⊢; rw [h]
  | cons op ops ih =>
    rw [depth?, Option.bind_eq_some_iff] at h ⊢
    obtain ⟨d, hstep, hrest⟩ := h
    refine ⟨d + k, ?_, ih hrest⟩
    rw [depthStep_eq_some_iff] at hstep ⊢
    omega

/-- **The depth in terms of counts.** -/
theorem depth?_eq_some_iff {n m : Nat} {ops : List Operation} :
    depth? n ops = some m ↔
      (∀ k, branchEnds (ops.take k) ≤ n + branchStarts (ops.take k)) ∧
        n + branchStarts ops = m + branchEnds ops := by
  induction ops generalizing n with
  | nil => simp
  | cons op ops ih =>
    rw [depth?, Option.bind_eq_some_iff, branchStarts_cons, branchEnds_cons]
    constructor
    · rintro ⟨d, hstep, hrest⟩
      rw [depthStep_eq_some_iff] at hstep
      obtain ⟨hprefixes, htotal⟩ := ih.1 hrest
      refine ⟨fun k => ?_, by omega⟩
      cases k with
      | zero => simp
      | succ k =>
        have := hprefixes k
        rw [List.take_succ_cons, branchStarts_cons, branchEnds_cons]
        omega
    · rintro ⟨hprefixes, htotal⟩
      -- The prefix of length one says that the first operation can be counted.
      have hfirst : branchEnds [op] ≤ n + branchStarts [op] := by simpa using hprefixes 1
      refine ⟨n + branchStarts [op] - branchEnds [op], ?_, ih.2 ⟨fun k => ?_, by omega⟩⟩
      · rw [depthStep_eq_some_iff]
        omega
      · have := hprefixes (k + 1)
        rw [List.take_succ_cons, branchStarts_cons, branchEnds_cons] at this
        omega

/-- Operations are balanced if they lead from depth zero back to it. -/
theorem balanced_iff_depth? {ops : List Operation} : Balanced ops ↔ depth? 0 ops = some 0 := by
  rw [depth?_eq_some_iff]
  constructor
  · intro h
    exact ⟨fun k => by simpa using h.prefix_le k, by simpa using h.total_eq.symm⟩
  · rintro ⟨hprefixes, htotal⟩
    exact ⟨fun k => by simpa using hprefixes k, by simpa using htotal.symm⟩

instance (ops : List Operation) : Decidable (Balanced ops) :=
  decidable_of_iff (depth? 0 ops = some 0) balanced_iff_depth?.symm

/-- Balanced operations do not change the depth. -/
theorem Balanced.depth? {ops : List Operation} (h : Balanced ops) (n : Nat) :
    depth? n ops = some n := by
  have := depth?_add (balanced_iff_depth?.1 h) n
  rwa [Nat.zero_add] at this

theorem Balanced.append {ops ops' : List Operation} (h : Balanced ops) (h' : Balanced ops') :
    Balanced (ops ++ ops') := by
  rw [balanced_iff_depth?, depth?_append, h.depth?, Option.bind_some, h'.depth?]

theorem Balanced.concat {ops : List Operation} (h : Balanced ops) {op : Operation}
    (hop : op.IsNeutral) : Balanced (ops ++ [op]) := by
  rw [balanced_iff_depth?, depth?_append, h.depth?, Option.bind_some, depth?_singleton,
    depthStep_of_isNeutral hop]

/-- If nothing ends a branch before it has begun, there is a depth. -/
theorem exists_depth? {ops : List Operation} (h : ∀ n, ¬ Overclosed (ops.take n)) :
    ∃ m, depth? 0 ops = some m ∧ branchStarts ops = m + branchEnds ops := by
  have hle (n : Nat) : branchEnds (ops.take n) ≤ branchStarts (ops.take n) := Nat.le_of_not_lt (h n)
  have hall := hle ops.length
  rw [List.take_length] at hall
  refine ⟨branchStarts ops - branchEnds ops, depth?_eq_some_iff.2 ⟨fun k => ?_, ?_⟩, ?_⟩
  · rw [Nat.zero_add]
    exact hle k
  · omega
  · omega

/-- **Replacing operations.** Operations may be replaced by lists of operations that change every
depth in the same way. -/
theorem depth?_flatten {ops : List Operation} {parts : List (List Operation)}
    (h : List.Forall₂ (fun op part => ∀ n m, depthStep n op = some m → depth? n part = some m)
      ops parts) {n m : Nat} (hdepth : depth? n ops = some m) :
    depth? n parts.flatten = some m := by
  induction h generalizing n with
  | nil => exact hdepth
  | @cons op part ops parts hop _ ih =>
    rw [depth?, Option.bind_eq_some_iff] at hdepth
    obtain ⟨d, hstep, hrest⟩ := hdepth
    rw [List.flatten_cons, depth?_append, hop n d hstep, Option.bind_some]
    exact ih hrest

/-! ### The depth of a turtle -/

/-- **A turtle remembers one frame for every open branch.** -/
theorem length_saved_step (settings : Settings) (s : State) (op : Operation) :
    (s.step settings op).map (·.saved.length) = depthStep s.saved.length op := by
  have hstance : (s.step settings op).map (·.saved.length) =
      (s.stance.step settings op).map (·.saved.length) := by
    rw [← State.map_stance_step, Option.map_map]
    rfl
  rw [hstance]
  -- The two brackets change what is saved, and the others leave it.
  cases op with
  | branchEnd =>
    rw [Stance.step, State.stance]
    cases s.saved <;> rfl
  | _ => rfl

/-- A walk gets to its end if there is a depth. -/
theorem exists_walkFrom_of_depth? (settings : Settings) (position : Nat) {s : State}
    {ops : List Operation} {m : Nat} (h : depth? s.saved.length ops = some m) :
    ∃ s', walkFrom settings position s ops = .ok s' ∧ s'.saved.length = m := by
  induction ops generalizing position s with
  | nil => exact ⟨s, rfl, Option.some.inj h⟩
  | cons op ops ih =>
    rw [depth?, ← length_saved_step settings, Option.bind_map] at h
    -- The depth has been followed this far, so the turtle can make the step as well.
    cases hstep : s.step settings op with
    | none => rw [hstep] at h; cases h
    | some s₁ =>
      rw [hstep, Option.bind_some] at h
      obtain ⟨s', hwalk, hm⟩ := ih (position + 1) h
      exact ⟨s', by rw [walkFrom_cons_of_step hstep, hwalk], hm⟩

/-- If a walk gets to its end, there is a depth. -/
theorem depth?_of_walkFrom {settings : Settings} {position : Nat} {s s' : State}
    {ops : List Operation} (h : walkFrom settings position s ops = .ok s') :
    depth? s.saved.length ops = some s'.saved.length := by
  induction ops generalizing position s with
  | nil =>
    rw [walkFrom_nil, Except.ok.injEq] at h
    rw [h, depth?_nil]
  | cons op ops ih =>
    obtain ⟨s₁, hstep, hrest⟩ := exists_step_of_walkFrom_cons h
    rw [depth?, ← length_saved_step settings, hstep, Option.map_some, Option.bind_some]
    exact ih hrest

/-- Balanced operations leave a trace. -/
theorem Balanced.exists_walk {ops : List Operation} (h : Balanced ops) (settings : Settings) :
    ∃ t, walk settings ops = .ok t := by
  obtain ⟨s, hwalk, hsaved⟩ :=
    exists_walkFrom_of_depth? settings 0 (s := .start settings) (h.depth? 0)
  exact ⟨s.trace, walk_eq_ok_iff.2 ⟨s, hwalk, List.eq_nil_of_length_eq_zero hsaved, rfl⟩⟩

/-- If a prefix is the first to end too many branches, the walk ends at its last operation. -/
theorem walk_of_overclosed (settings : Settings) {ops : List Operation} {p : Nat}
    (hfirst : ∀ n ≤ p, ¬ Overclosed (ops.take n)) (hover : Overclosed (ops.take (p + 1))) :
    walk settings ops = .error (.unbalanced p 0) := by
  -- The prefix has a last operation, since without it nothing is wrong.
  have hlt : p < ops.length := by
    by_contra hge
    have hall (n : Nat) (hn : p ≤ n) : ops.take n = ops := List.take_of_length_le (by omega)
    rw [hall (p + 1) (by omega), ← hall p (Nat.le_refl p)] at hover
    exact hfirst p (Nat.le_refl p) hover
  have hprefixes (n : Nat) : ¬ Overclosed ((ops.take p).take n) := by
    rw [List.take_take]
    exact hfirst _ (Nat.min_le_right n p)
  obtain ⟨m, hdepth, hcount⟩ := exists_depth? hprefixes
  -- That operation ends a branch while none is open.
  have hlast : depthStep m ops[p] = none := by
    rw [Option.eq_none_iff_forall_ne_some]
    intro d hd
    rw [depthStep_eq_some_iff] at hd
    rw [Overclosed, ← List.take_append_getElem hlt, branchStarts_append, branchEnds_append] at hover
    omega
  obtain ⟨s, hwalk, hsaved⟩ :=
    exists_walkFrom_of_depth? settings 0 (s := .start settings) hdepth
  have hstuck : s.step settings ops[p] = none := by
    rw [← hsaved, ← length_saved_step settings, Option.map_eq_none_iff] at hlast
    exact hlast
  apply walk_of_walkFrom_error
  rw [← List.take_append_drop p ops, walkFrom_append, hwalk, List.drop_eq_getElem_cons hlt,
    Except.bind, walkFrom_cons_of_stuck hstuck, Nat.zero_add, List.length_take_of_le (by omega)]

/-! ### Words -/

/-- **What becomes of a word depends on its branches.** If some prefix ends more branches than it
begins, the walk ends at the last symbol of the shortest such prefix. Otherwise the branches that
are left open at the end are an error, which counts them; and if there are none, the word has a
trace. -/
theorem trace_of_branches (settings : Settings) (r : Repertoire) (w : Word) :
    let ops := w.map r.operation
    ((∃ n, Overclosed (ops.take n)) →
      ∃ p, IsLeast {n | Overclosed (ops.take n)} (p + 1) ∧
        trace settings r w = .error (.unbalanced p 0)) ∧
    ((¬ ∃ n, Overclosed (ops.take n)) →
      (∀ d, 0 < d → branchStarts ops = branchEnds ops + d →
        trace settings r w = .error (.unbalanced w.length d)) ∧
      (branchStarts ops ≤ branchEnds ops → ∃ t, trace settings r w = .ok t)) := by
  intro ops
  constructor
  · intro h
    classical
    -- The empty prefix ends nothing, so the shortest one has a last symbol.
    obtain ⟨p, hp⟩ : ∃ p, Nat.find h = p + 1 := by
      refine Nat.exists_eq_succ_of_ne_zero fun h0 => ?_
      have := Nat.find_spec h
      rw [h0, List.take_zero] at this
      exact absurd this (Nat.lt_irrefl 0)
    have hover : Overclosed (ops.take (p + 1)) := hp ▸ Nat.find_spec h
    refine ⟨p, ⟨hover, fun n hn => hp ▸ Nat.find_min' h hn⟩, ?_⟩
    exact walk_of_overclosed settings (fun n hn => Nat.find_min h (by omega)) hover
  · intro h
    -- No end is too early, so the walk comes to its end and only what is left open counts.
    obtain ⟨m, hdepth, hcount⟩ := exists_depth? fun n hn => h ⟨n, hn⟩
    obtain ⟨s, hwalk, hsaved⟩ :=
      exists_walkFrom_of_depth? settings 0 (s := .start settings) hdepth
    have htrace := walk_of_walkFrom hwalk
    constructor
    · intro d hd htotal
      have hopen : s.saved.isEmpty = false := by
        rw [List.isEmpty_eq_false_iff, ← List.length_pos_iff]
        omega
      rw [hopen, List.length_map] at htrace
      rw [trace, htrace, hsaved, if_neg Bool.false_ne_true]
      congr 2
      omega
    · intro hle
      have hclosed : s.saved = [] := List.eq_nil_of_length_eq_zero (by omega)
      rw [hclosed] at htrace
      exact ⟨s.trace, htrace⟩

end LSystem.Turtle
