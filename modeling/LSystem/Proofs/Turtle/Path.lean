import LSystem.Proofs.Turtle.Isolation

/-!
# The path of a turtle

Where a turtle stands after some operations does not depend on the branches that it has been in and
has left again. What is left of the operations without these branches is the *active path*, and the
stance of the turtle can be read off the path without a stack: its frame is the one that the path
leads to, and the frames that it remembers are those at which the branches on the path begin
(`stance_along_activePath`).

The path is defined by places: two places are matched if a branch begins at the one and ends at the
other with balanced operations between them, and the path takes the operations that are not between
matched places. So nothing of the stack is in the definition. The proof goes from the back. The last
operation ends no branch, and then the path gets longer by it, or it ends a branch that begins
somewhere before, and then the path is the one up to this beginning (`activePath_append_branch`).
`Nested` is the induction that belongs to this. Operations are nested if they have a depth
(`nested_of_depth?`), and they have a depth if a turtle can carry them out.
-/

namespace LSystem.Turtle

variable {settings : Settings}

/-! ### Closed branches -/

/-- A branch begins at place `i` and ends at place `j`. -/
def Matched (ops : List Operation) (i j : Nat) : Prop :=
  i < j ∧ ops[i]? = some .branchStart ∧ ops[j]? = some .branchEnd ∧
    Balanced ((ops.take j).drop (i + 1))

instance (ops : List Operation) (i j : Nat) : Decidable (Matched ops i j) :=
  inferInstanceAs (Decidable (i < j ∧ ops[i]? = some .branchStart ∧ ops[j]? = some .branchEnd ∧
    Balanced ((ops.take j).drop (i + 1))))

/-- The operation at place `k` belongs to a branch that is closed, both ends included. -/
def InClosedBranch (ops : List Operation) (k : Nat) : Prop :=
  ∃ i, i ≤ k ∧ ∃ j, j < ops.length ∧ k ≤ j ∧ Matched ops i j

instance (ops : List Operation) (k : Nat) : Decidable (InClosedBranch ops k) :=
  inferInstanceAs (Decidable (∃ i, i ≤ k ∧ ∃ j, j < ops.length ∧ k ≤ j ∧ Matched ops i j))

/-- **The active path:** the operations that belong to no closed branch. -/
def activePath (ops : List Operation) : List Operation :=
  (List.range ops.length).filterMap fun k => if InClosedBranch ops k then none else ops[k]?

@[simp] theorem activePath_nil : activePath [] = [] := rfl

theorem matched_append_iff {ops ops' : List Operation} {i j : Nat} (hj : j < ops.length) :
    Matched (ops ++ ops') i j ↔ Matched ops i j := by
  unfold Matched
  refine and_congr_right fun hij => ?_
  rw [List.getElem?_append_left (hij.trans hj), List.getElem?_append_left hj,
    List.take_append_of_le_length hj.le]

theorem lt_length_of_matched {ops : List Operation} {i j : Nat} (h : Matched ops i j) :
    j < ops.length := (List.getElem?_eq_some_iff.1 h.2.2.1).1

theorem inClosedBranch_iff {ops : List Operation} {k : Nat} :
    InClosedBranch ops k ↔ ∃ i j, i ≤ k ∧ k ≤ j ∧ Matched ops i j := by
  constructor
  · rintro ⟨i, hi, j, -, hk, h⟩
    exact ⟨i, j, hi, hk, h⟩
  · rintro ⟨i, j, hi, hk, h⟩
    exact ⟨i, hi, j, lt_length_of_matched h, hk, h⟩

theorem InClosedBranch.append {ops : List Operation} {k : Nat} (h : InClosedBranch ops k)
    (ops' : List Operation) : InClosedBranch (ops ++ ops') k := by
  obtain ⟨i, hi, j, hj, hk, hmatched⟩ := h
  exact inClosedBranch_iff.2 ⟨i, j, hi, hk, (matched_append_iff hj).2 hmatched⟩

/-- If no branch of the first operations is closed by the second ones, the path goes through the
first ones as if there were no others. -/
theorem activePath_append {ops ops' : List Operation}
    (h : ∀ i j, Matched (ops ++ ops') i j → i < ops.length → j < ops.length) :
    activePath (ops ++ ops') = activePath ops ++
      (List.range ops'.length).filterMap fun k =>
        if InClosedBranch (ops ++ ops') (ops.length + k) then none else ops'[k]? := by
  unfold activePath
  rw [List.length_append, List.range_add, List.filterMap_append, List.filterMap_map]
  congr 1
  · refine List.filterMap_congr fun k hk => ?_
    have hk : k < ops.length := List.mem_range.1 hk
    have hiff : InClosedBranch (ops ++ ops') k ↔ InClosedBranch ops k := by
      constructor
      · intro hclosed
        obtain ⟨i, j, hi, hj, hmatched⟩ := inClosedBranch_iff.1 hclosed
        -- The branch begins among the first operations, so it ends there.
        have hlt := h i j hmatched (hi.trans_lt hk)
        exact inClosedBranch_iff.2 ⟨i, j, hi, hj, (matched_append_iff hlt).1 hmatched⟩
      · exact fun hclosed => hclosed.append ops'
    simp only [hiff, List.getElem?_append_left hk]
  · refine List.filterMap_congr fun k _ => ?_
    simp only [Function.comp_apply, List.getElem?_append_right (Nat.le_add_right _ _),
      Nat.add_sub_cancel_left]

theorem activePath_concat {op : Operation} (h : op ≠ .branchEnd) (ops : List Operation) :
    activePath (ops ++ [op]) = activePath ops ++ [op] := by
  -- A branch that is closed at the end would be closed by the last operation.
  have hlast : ∀ i j, Matched (ops ++ [op]) i j → j < ops.length := by
    intro i j hmatched
    have hj := lt_length_of_matched hmatched
    rw [List.length_append, List.length_singleton] at hj
    rcases Nat.lt_or_eq_of_le (Nat.le_of_lt_succ hj) with hlt | rfl
    · exact hlt
    · have hend := hmatched.2.2.1
      rw [List.getElem?_concat_length, Option.some.injEq] at hend
      exact absurd hend h
  have hopen : ¬ InClosedBranch (ops ++ [op]) (ops.length + 0) := by
    rw [inClosedBranch_iff]
    rintro ⟨i, j, -, hj, hmatched⟩
    exact absurd (hlast i j hmatched) (Nat.not_lt.2 hj)
  rw [activePath_append fun i j hmatched _ => hlast i j hmatched, List.length_singleton,
    List.range_one, List.filterMap_cons, if_neg hopen]
  rfl

private theorem matched_branch {inside : List Operation} (h : Balanced inside)
    (ops : List Operation) :
    Matched (ops ++ branch inside) ops.length (ops.length + inside.length + 1) := by
  refine ⟨by omega, ?_, ?_, ?_⟩
  · simp [branch]
  · simp [branch, Nat.add_assoc]
  · have hinside : ((ops ++ branch inside).take (ops.length + inside.length + 1)).drop
        (ops.length + 1) = inside := by
      rw [Nat.add_assoc, List.take_length_add_append]
      simp [branch]
    rw [hinside]
    exact h

/-- A branch that is balanced inside ends no branch in front of it. -/
private theorem lt_length_of_matched_append_branch {ops inside : List Operation}
    (h : Balanced inside)
    {i j : Nat} (hmatched : Matched (ops ++ branch inside) i j) (hi : i < ops.length) :
    j < ops.length := by
  by_contra hge
  obtain ⟨m, rfl⟩ := Nat.exists_eq_add_of_le (Nat.le_of_not_lt hge)
  obtain ⟨-, -, hend, hbalanced⟩ := hmatched
  rw [List.getElem?_append_right (Nat.le_add_right _ _), Nat.add_sub_cancel_left] at hend
  have hm : m < (branch inside).length := (List.getElem?_eq_some_iff.1 hend).1
  -- The end would be in the branch behind, which begins with a start and so not with an end.
  cases m with
  | zero => cases hend
  | succ m =>
    -- Between the two places the branch begins, and at most what is inside is closed again.
    have hbetween : ((ops ++ branch inside).take (ops.length + (m + 1))).drop (i + 1) =
        ops.drop (i + 1) ++ (.branchStart :: inside.take m) := by
      have hle : m ≤ inside.length := by
        rw [branch, List.length_cons, List.length_append, List.length_singleton] at hm
        omega
      rw [List.take_length_add_append, List.drop_append_of_le_length hi, branch,
        List.take_succ_cons, List.take_append_of_le_length hle]
    have hprefix := hbalanced.prefix_le (ops.drop (i + 1)).length
    have htotal := hbalanced.total_eq
    have hinside := h.prefix_le m
    rw [hbetween] at hprefix htotal
    rw [List.take_left] at hprefix
    rw [branchEnds_append, branchStarts_append, branchEnds_cons, branchStarts_cons] at htotal
    have hstart : branchStarts [.branchStart] = 1 := rfl
    have hnone : branchEnds [.branchStart] = 0 := rfl
    omega

theorem activePath_append_branch {inside : List Operation} (h : Balanced inside)
    (ops : List Operation) : activePath (ops ++ branch inside) = activePath ops := by
  have hnil : ((List.range (branch inside).length).filterMap fun k =>
      if InClosedBranch (ops ++ branch inside) (ops.length + k) then none
      else (branch inside)[k]?) = [] := by
    rw [List.filterMap_eq_nil_iff]
    intro k hk
    have hk : k < (branch inside).length := List.mem_range.1 hk
    have hlength : (branch inside).length = inside.length + 2 := by simp [branch]
    have hclosed : InClosedBranch (ops ++ branch inside) (ops.length + k) :=
      inClosedBranch_iff.2 ⟨_, _, by omega, by omega, matched_branch h ops⟩
    exact if_pos hclosed
  -- What is in front goes its way without the branch, and the branch itself is closed as a whole.
  rw [activePath_append fun i j => lt_length_of_matched_append_branch h, hnil, List.append_nil]

/-! ### Nested operations -/

/-- **The branch that is open last.** If more branches are open in the end than in the beginning,
then one of them begins where there is one less, and behind its beginning all is balanced. -/
theorem exists_last_branchStart {n d : Nat} {ops : List Operation}
    (h : depth? n ops = some (d + 1)) (hle : n ≤ d) :
    ∃ before inside, ops = before ++ .branchStart :: inside ∧ depth? n before = some d ∧
      Balanced inside := by
  -- A branch that is closed in the end is stepped over as a whole, so the list may get shorter by
  -- more than one operation.
  induction hlength : ops.length using Nat.strong_induction_on generalizing ops d with
  | _ l ih =>
    subst hlength
    rcases List.eq_nil_or_concat ops with rfl | ⟨ops, op, rfl⟩
    · rw [depth?_nil, Option.some.injEq] at h
      omega
    rw [List.concat_eq_append] at h ih ⊢
    rw [List.length_append, List.length_singleton] at ih
    obtain ⟨e, he, hstep⟩ := depth?_concat_eq_some_iff.1 h
    by_cases hneutral : op.IsNeutral
    · rw [depthStep_of_isNeutral hneutral, Option.some.injEq] at hstep
      subst hstep
      obtain ⟨before, inside, rfl, hbefore, hinside⟩ := ih _ (Nat.lt_succ_self _) he hle rfl
      exact ⟨before, inside ++ [op], by simp, hbefore, hinside.concat hneutral⟩
    rw [Operation.IsNeutral, not_and_or, not_not, not_not] at hneutral
    rcases hneutral with rfl | rfl
    · -- The last operation begins the branch.
      have hd : e = d := Nat.succ.inj (Option.some.inj hstep)
      exact ⟨ops, [], rfl, hd ▸ he, by decide⟩
    · -- The last operation closes a branch, and the one that is looked for begins before that.
      have hd : e = d + 2 := by
        cases e with
        | zero => cases hstep
        | succ e => exact congrArg Nat.succ (Option.some.inj hstep)
      subst hd
      obtain ⟨outside, closed, rfl, houtside, hclosed⟩ :=
        ih _ (Nat.lt_succ_self _) he (by omega) rfl
      obtain ⟨before, inside, rfl, hbefore, hinside⟩ :=
        ih outside.length (by rw [List.length_append]; omega) houtside hle rfl
      exact ⟨before, inside ++ branch closed, by simp [branch], hbefore,
        hinside.append hclosed.branch⟩

/-- **Nested operations** consist of single operations that end no branch and of whole branches. -/
inductive Nested : List Operation → Prop
  | nil : Nested []
  | concat {ops : List Operation} {op : Operation} (h : Nested ops) (hop : op ≠ .branchEnd) :
      Nested (ops ++ [op])
  | closed {ops inside : List Operation} (h : Nested ops) (hinside : Balanced inside) :
      Nested (ops ++ branch inside)

theorem nested_of_depth? {ops : List Operation} {m : Nat} (h : depth? 0 ops = some m) :
    Nested ops := by
  induction hlength : ops.length using Nat.strong_induction_on generalizing ops m with
  | _ l ih =>
    subst hlength
    -- The induction is on the length, since a branch is taken off as a whole.
    rcases List.eq_nil_or_concat ops with rfl | ⟨ops, op, rfl⟩
    · exact .nil
    rw [List.concat_eq_append] at h ih ⊢
    rw [List.length_append, List.length_singleton] at ih
    obtain ⟨d, hd, hstep⟩ := depth?_concat_eq_some_iff.1 h
    by_cases hop : op = .branchEnd
    · -- The branch that ends here is the one that was open last.
      subst hop
      have hm : d = m + 1 := by
        cases d with
        | zero => cases hstep
        | succ d => exact congrArg Nat.succ (Option.some.inj hstep)
      obtain ⟨before, inside, rfl, hbefore, hinside⟩ :=
        exists_last_branchStart (hm ▸ hd) (Nat.zero_le m)
      -- What stands before the branch is shorter, and what stands in it is balanced.
      have hnested : Nested before :=
        ih before.length (by rw [List.length_append]; omega) hbefore rfl
      have hbranch : before ++ .branchStart :: inside ++ [.branchEnd] =
          before ++ branch inside := by simp [branch]
      rw [hbranch]
      exact hnested.closed hinside
    · exact (ih _ (Nat.lt_succ_self _) hd rfl).concat hop

private theorem branchEnd_notMem_activePath {ops : List Operation} (h : Nested ops) :
    .branchEnd ∉ activePath ops := by
  induction h with
  | nil => simp
  | concat _ hop ih =>
    rw [activePath_concat hop, List.mem_append, List.mem_singleton]
    exact not_or.2 ⟨ih, hop.symm⟩
  | closed _ hinside ih =>
    rw [activePath_append_branch hinside]
    exact ih

/-! ### Frames along a path -/

/-- The frame that operations lead to, where branches neither save a frame nor restore one. -/
def Frame.along (settings : Settings) (f : Frame) (ops : List Operation) : Frame :=
  ops.foldl (Frame.follow settings) f

/-- The frames at which branches begin along operations, from the first to the last. -/
def branchFrames (settings : Settings) (f : Frame) : List Operation → List Frame
  | [] => []
  | op :: ops =>
    (if op = .branchStart then [f] else []) ++ branchFrames settings (f.follow settings op) ops

theorem Frame.along_append (f : Frame) (ops ops' : List Operation) :
    f.along settings (ops ++ ops') = (f.along settings ops).along settings ops' :=
  List.foldl_append

theorem branchFrames_append (f : Frame) (ops ops' : List Operation) :
    branchFrames settings f (ops ++ ops') =
      branchFrames settings f ops ++ branchFrames settings (f.along settings ops) ops' := by
  induction ops generalizing f with
  | nil => rfl
  | cons op ops ih =>
    rw [List.cons_append, branchFrames, branchFrames, ih, List.append_assoc]
    rfl

/-- The stance that a path leads to. -/
def Stance.along (settings : Settings) (p : Stance) (ops : List Operation) : Stance where
  frame := p.frame.along settings ops
  saved := (branchFrames settings p.frame ops).reverse ++ p.saved

theorem Stance.along_append (p : Stance) (ops ops' : List Operation) :
    p.along settings (ops ++ ops') = (p.along settings ops).along settings ops' := by
  simp only [along, Frame.along_append, branchFrames_append, List.reverse_append,
    List.append_assoc]

theorem Stance.step_of_ne {op : Operation} (h : op ≠ .branchEnd) (p : Stance) :
    p.step settings op = some (p.along settings [op]) := by
  cases op with
  | branchEnd => exact absurd rfl h
  | _ => rfl

/-- **A walk leads where its active path leads.** -/
theorem stance_walkFrom {ops : List Operation} (hnested : Nested ops) {position : Nat}
    {s s' : State} (h : walkFrom settings position s ops = .ok s') :
    s'.stance = s.stance.along settings (activePath ops) := by
  -- One operation leads path and walk one step on, and a branch leaves both where they are.
  induction hnested generalizing s' with
  | nil =>
    rw [walkFrom_nil, Except.ok.injEq] at h
    rw [h]
    rfl
  | @concat ops op _ hop ih =>
    obtain ⟨s₁, hops, hlast⟩ := walkFrom_append_eq_ok_iff.1 h
    obtain ⟨s₂, hstep, hnil⟩ := exists_step_of_walkFrom_cons hlast
    rw [walkFrom_nil, Except.ok.injEq] at hnil
    subst hnil
    have hstance := State.stance_step_of_step hstep
    rw [Stance.step_of_ne hop, Option.some.injEq, ih hops] at hstance
    rw [activePath_concat hop, Stance.along_append, hstance]
  | @closed ops inside _ hinside ih =>
    obtain ⟨s₁, hops, hbranch⟩ := walkFrom_append_eq_ok_iff.1 h
    rw [activePath_append_branch hinside, stance_of_branch hinside hbranch, ih hops]

/-- **The stance of a turtle is that of its active path.** After any part of a word that can be
carried out, its frame is the one that the path leads to, and the frames that it remembers are those
at which the branches on the path begin, the outermost one first. No branch ends on the path. -/
theorem stance_along_activePath {r : Repertoire} {w : Word} {n : Nat} {s : State}
    (h : walkFrom settings 0 (.start settings) ((w.take n).map r.operation) = .ok s) :
    let path := activePath ((w.take n).map r.operation)
    let start := Frame.start settings.step
    s.frame = start.along settings path ∧
      s.saved.reverse = branchFrames settings start path ∧ .branchEnd ∉ path := by
  intro path start
  have hnested : Nested ((w.take n).map r.operation) := nested_of_depth? (depth?_of_walkFrom h)
  have hstance : s.stance = (State.start settings).stance.along settings path :=
    stance_walkFrom hnested h
  refine ⟨congrArg Stance.frame hstance, ?_, branchEnd_notMem_activePath hnested⟩
  have hsaved : s.saved = (branchFrames settings start path).reverse ++ [] :=
    congrArg Stance.saved hstance
  rw [hsaved, List.append_nil, List.reverse_reverse]

/-- The first branch is closed, and in the second one, which is open, the third one is closed. -/
theorem stance_along_open_branch :
    let r : Repertoire := ⟨#[.forward, .yaw 1, .branchStart, .branchEnd, .move, .scaleStep]⟩
    let w : Word := [0, 2, 5, 0, 3, 1, 2, 4, 2, 5, 3, 0, 3, 3]
    let start := Frame.start 1
    ∃ s, walkFrom {} 0 (.start {}) ((w.take 12).map r.operation) = .ok s ∧
      s.frame = start.along {} [.forward, .yaw 1, .branchStart, .move, .forward] ∧
      s.saved.reverse = [start.along {} [.forward, .yaw 1]] := by
  intro r w start
  have hdepth : depth? 0 ((w.take 12).map r.operation) = some 1 := by decide
  have hpath : activePath ((w.take 12).map r.operation) =
      [.forward, .yaw 1, .branchStart, .move, .forward] := by decide
  obtain ⟨s, hwalk, -⟩ := exists_walkFrom_of_depth? {} 0 (s := .start {}) hdepth
  obtain ⟨hframe, hsaved, -⟩ := stance_along_activePath hwalk
  rw [hpath] at hframe hsaved
  exact ⟨s, hwalk, hframe, hsaved⟩

end LSystem.Turtle
