import LSystem.Proofs.Curve.Slices
import LSystem.Proofs.Turtle.Branches
import LSystem.Proofs.Turtle.Strands

/-!
# What a branch keeps to itself

Whatever happens in a branch, the turtle leaves it with the stance in which it came
(`stance_of_branch`). While the branch is open it only takes frames away that it has put there
itself, so the frame that it finds at the end is the one from the beginning.

Both ends of a branch are breaks, and a journey falls apart at a break: the strands behind it do
not depend on the legs before it, apart from the place where it leads (`strandsBehind`), and of the
legs behind it those before it only see that there is a break of this kind (`strandsBefore`). So a
branch divides the strands of a walk into those before it, its own, and those behind it, and neither
the first nor the last depend on what is in it (`strands_around_branch`).

`curves_around_branch` compares two words that differ in a branch only. If one of them has a trace,
so has the other, and their curves differ in those of the branch.
-/

namespace LSystem.Turtle

open Curve

variable {settings : Settings}

/-! ### The way back -/

/-- A turtle that keeps some frames below others still keeps them after an operation, unless
it ends more branches than there are above them. -/
theorem State.exists_saved_step {s s' : State} {op : Operation} {above below : List Frame} {m : Nat}
    (h : s.step settings op = some s') (hsaved : s.saved = above ++ below)
    (hdepth : depthStep above.length op = some m) :
    ∃ above', s'.saved = above' ++ below ∧ above'.length = m := by
  have hstance : s.stance.step settings op = some s'.stance := stance_step_of_step h
  cases op with
  | branchStart =>
    -- One more frame is kept.
    have hsaved' : s.frame :: s.saved = s'.saved := congrArg Stance.saved (Option.some.inj hstance)
    rw [hsaved] at hsaved'
    exact ⟨s.frame :: above, hsaved'.symm, Option.some.inj hdepth⟩
  | branchEnd =>
    cases above with
    | nil => cases hdepth
    | cons f above =>
      rw [stance, hsaved] at hstance
      have hsaved' : above ++ below = s'.saved := congrArg Stance.saved (Option.some.inj hstance)
      exact ⟨above, hsaved'.symm, Option.some.inj hdepth⟩
  | _ =>
    have hsaved' : s.saved = s'.saved := congrArg Stance.saved (Option.some.inj hstance)
    exact ⟨above, hsaved'.symm.trans hsaved, Option.some.inj hdepth⟩

/-- The same holds of several operations. -/
theorem exists_saved_of_walkFrom {position : Nat} {s s' : State} {ops : List Operation}
    {above below : List Frame} {m : Nat} (h : walkFrom settings position s ops = .ok s')
    (hsaved : s.saved = above ++ below) (hdepth : depth? above.length ops = some m) :
    ∃ above', s'.saved = above' ++ below ∧ above'.length = m := by
  -- The frames above come and go with the operations; those below are the same all the time.
  induction ops generalizing position s above with
  | nil =>
    rw [walkFrom_nil, Except.ok.injEq] at h
    subst h
    exact ⟨above, hsaved, Option.some.inj hdepth⟩
  | cons op ops ih =>
    obtain ⟨s₁, hstep, hwalk⟩ := exists_step_of_walkFrom_cons h
    rw [depth?, Option.bind_eq_some_iff] at hdepth
    obtain ⟨d, hd, hrest⟩ := hdepth
    obtain ⟨above₁, hsaved₁, rfl⟩ := State.exists_saved_step hstep hsaved hd
    exact ih hwalk hsaved₁ hrest

/-- The operations of a branch. -/
def branch (ops : List Operation) : List Operation := .branchStart :: (ops ++ [.branchEnd])

theorem Balanced.branch {ops : List Operation} (h : Balanced ops) : Balanced (branch ops) := by
  rw [balanced_iff_depth?, Turtle.branch, Turtle.depth?, depthStep, Option.bind_some,
    depth?_append, h.depth?, Option.bind_some, depth?_singleton]
  rfl

/-- The states at the ends of a branch: where it has begun, where it is about to end, and where it
has ended. -/
theorem exists_states_of_branch {position : Nat} {s s' : State} {ops : List Operation}
    (hops : Balanced ops) (h : walkFrom settings position s (branch ops) = .ok s') :
    ∃ s₁ s₂, s.step settings .branchStart = some s₁ ∧
      walkFrom settings (position + 1) s₁ ops = .ok s₂ ∧
      s₂.step settings .branchEnd = some s' ∧ s₁.frame = s.frame ∧ s'.stance = s.stance := by
  obtain ⟨s₁, hstart, hrest⟩ := exists_step_of_walkFrom_cons h
  obtain ⟨s₂, hinside, hlast⟩ := walkFrom_append_eq_ok_iff.1 hrest
  obtain ⟨s₃, hend, hnil⟩ := exists_step_of_walkFrom_cons hlast
  rw [walkFrom_nil, Except.ok.injEq] at hnil
  subst hnil
  have hstance₁ : (⟨s.frame, s.frame :: s.saved⟩ : Stance) = s₁.stance :=
    Option.some.inj (State.stance_step_of_step hstart)
  -- The frame of the beginning is on top of the others, and balanced operations leave it there.
  have hsaved₁ : s₁.saved = [] ++ (s.frame :: s.saved) := (congrArg Stance.saved hstance₁).symm
  obtain ⟨above, hsaved₂, habove⟩ := exists_saved_of_walkFrom hinside hsaved₁ (hops.depth? 0)
  rw [List.eq_nil_of_length_eq_zero habove, List.nil_append] at hsaved₂
  have hstance₃ : (⟨s.frame, s.saved⟩ : Stance) = s₃.stance := by
    have hstance := State.stance_step_of_step hend
    rw [Stance.step, State.stance, hsaved₂] at hstance
    exact Option.some.inj hstance
  exact ⟨s₁, s₂, hstart, hinside, hend, (congrArg Stance.frame hstance₁).symm, hstance₃.symm⟩

/-- **A branch leads back to where it began.** -/
theorem stance_of_branch {position : Nat} {s s' : State} {ops : List Operation}
    (hops : Balanced ops) (h : walkFrom settings position s (branch ops) = .ok s') :
    s'.stance = s.stance := by
  obtain ⟨-, -, -, -, -, -, hstance⟩ := exists_states_of_branch hops h
  exact hstance

/-- A branch can be carried out from any state. -/
theorem exists_walkFrom_branch {ops : List Operation} (hops : Balanced ops) (settings : Settings)
    (position : Nat) (s : State) : ∃ s', walkFrom settings position s (branch ops) = .ok s' := by
  -- It leads from every depth back to this depth, and so it never ends a branch that is not open.
  have hdepth : depth? s.saved.length (branch ops) = some s.saved.length := hops.branch.depth? _
  obtain ⟨s', hwalk, -⟩ := exists_walkFrom_of_depth? settings position hdepth
  exact ⟨s', hwalk⟩

/-- **A branch has no say in whether there is a trace.** -/
theorem exists_walk_branch_iff {before behind ops : List Operation} (hops : Balanced ops) :
    (∃ t, walk settings (before ++ branch ops ++ behind) = .ok t) ↔
      ∃ t, walk settings (before ++ behind) = .ok t := by
  rw [exists_walk_append_iff, exists_walk_append_iff]
  constructor
  · rintro ⟨p, p', hp, hbehind, hclosed⟩
    obtain ⟨s, hbefore, hbranch⟩ := walkFrom_append_eq_ok_iff.1 hp
    -- The stance is the same on both sides of the branch, so the branch can be left out.
    obtain ⟨s', hs', hclosed'⟩ := exists_closed_walkFrom_of_stance (stance_of_branch hops hbranch)
      hbehind hclosed (0 + before.length)
    exact ⟨s, s', hbefore, hs', hclosed'⟩
  · rintro ⟨s, s', hbefore, hbehind, hclosed⟩
    -- It can also be put in, because it can be carried out from any state.
    obtain ⟨p, hbranch⟩ := exists_walkFrom_branch hops settings (0 + before.length) s
    obtain ⟨p', hp', hclosed'⟩ := exists_closed_walkFrom_of_stance
      (stance_of_branch hops hbranch).symm hbehind hclosed (0 + (before ++ branch ops).length)
    exact ⟨p, p', walkFrom_append_eq_ok_iff.2 ⟨s, hbefore, hbranch⟩, hp', hclosed'⟩

/-! ### Strands on both sides of a break -/

/-- The strands of a journey, where the root may begin at the origin. -/
def journeyStrands (origin : Point) (ls : List Leg) : List (List Point) :=
  rootStrand origin (sections ls) :: (sections ls).2.map laterStrand

/-- The strands of the legs before a break. -/
def strandsBefore (origin : Point) (ls : List Leg) (l : Leg) : List (List Point) :=
  rootStrand origin ((sections ls).1, (sections ls).2 ++ [(l, [])]) ::
    (sections ls).2.map laterStrand

/-- The strands of the legs behind a break. -/
def strandsBehind (l : Leg) (ls : List Leg) : List (List Point) :=
  laterStrand (l, (sections ls).1) :: (sections ls).2.map laterStrand

@[simp] theorem strandsBehind_nil (l : Leg) : strandsBehind l [] = [[]] := rfl

/-- Of a break nothing counts but where it leads. -/
private theorem strandsBehind_congr {l l' : Leg} (h : l.after = l'.after) (ls : List Leg) :
    strandsBehind l ls = strandsBehind l' ls := by
  rw [strandsBehind, strandsBehind, laterStrand, laterStrand, h]

/-- Whether a branch ends the root shows at the first break. -/
private theorem branchEndsRoot_append_cons (later later' : List (Leg × List Leg)) (l : Leg)
    (ls : List Leg) :
    branchEndsRoot (later ++ (l, ls) :: later') = branchEndsRoot (later ++ [(l, [])]) := by
  cases later <;> rfl

/-- **A break divides the strands of a journey.** -/
theorem journeyStrands_append_cons {l : Leg} (h : l.breaks = true) (origin : Point)
    (before behind : List Leg) :
    journeyStrands origin (before ++ l :: behind) =
      strandsBefore origin before l ++ strandsBehind l behind := by
  rw [journeyStrands, sections_append_cons h, rootStrand, branchEndsRoot_append_cons,
    List.map_append, List.map_cons]
  rfl

private theorem strandsBehind_append_cons {l : Leg} (h : l.breaks = true) (l' : Leg)
    (before behind : List Leg) :
    strandsBehind l' (before ++ l :: behind) =
      strandsBehind l' before ++ strandsBehind l behind := by
  rw [strandsBehind, sections_append_cons h, List.map_append, List.map_cons]
  rfl

/-! ### Strands around a branch -/

/-- The legs of a branch: its beginning, what is in it, and its end, both ends being breaks in one
place. -/
private theorem exists_journeyFrom_branch {position : Nat} {s s' : State} {ops : List Operation}
    (hops : Balanced ops) (h : walkFrom settings position s (branch ops) = .ok s') :
    ∃ inside last, journeyFrom settings s (branch ops) =
        ⟨.branchStart, s.frame, s.frame⟩ :: (inside ++ [last]) ∧
      last.breaks = true ∧ last.after = s.frame := by
  obtain ⟨s₁, s₂, hstart, hinside, hend, hframe, hstance⟩ := exists_states_of_branch hops h
  refine ⟨journeyFrom settings s₁ ops, ⟨.branchEnd, s₂.frame, s'.frame⟩, ?_, rfl,
    congrArg Stance.frame hstance⟩
  have hlast : journeyFrom settings s₂ [.branchEnd] = [⟨.branchEnd, s₂.frame, s'.frame⟩] :=
    journeyFrom_cons_of_step hend []
  rw [branch, journeyFrom_cons_of_step hstart, journeyFrom_append hinside, hlast, hframe]

/-- **The strands around a branch.** What the branch adds stands between strands that do not depend
on it, and is the same whatever follows the branch. -/
theorem strands_around_branch {position : Nat} {before ops : List Operation} {s s₁ : State}
    (hops : Balanced ops) (hbefore : walkFrom settings 0 (.start settings) before = .ok s)
    (hbranch : walkFrom settings position s (branch ops) = .ok s₁) :
    ∃ inside, ∀ {behind : List Operation} {s' : State},
      walkFrom settings 0 (.start settings) (before ++ branch ops ++ behind) = .ok s' →
      s'.trace.strands =
        strandsBefore (.at (.start settings.step)) (journeyFrom settings (.start settings) before)
            ⟨.branchStart, s.frame, s.frame⟩ ++
          inside ++
          strandsBehind ⟨.branchEnd, s.frame, s.frame⟩ (journeyFrom settings s behind) := by
  obtain ⟨inside, last, hjourney, hbreaks, hafter⟩ := exists_journeyFrom_branch hops hbranch
  refine ⟨strandsBehind ⟨.branchStart, s.frame, s.frame⟩ inside, fun {behind s'} hwalk => ?_⟩
  -- Behind the branch the turtle goes on as if there had been none.
  have hbehind : journeyFrom settings s (branch ops ++ behind) =
      ⟨.branchStart, s.frame, s.frame⟩ ::
        (inside ++ last :: journeyFrom settings s behind) := by
    rw [journeyFrom_append hbranch, hjourney, journeyFrom_of_stance (stance_of_branch hops hbranch)]
    simp
  -- Of its end nothing counts but where the turtle is then, which is where it was.
  have hlast : strandsBehind last (journeyFrom settings s behind) =
      strandsBehind ⟨.branchEnd, s.frame, s.frame⟩ (journeyFrom settings s behind) :=
    strandsBehind_congr hafter _
  have hstrands := strands_walkFrom hwalk
  rw [List.append_assoc, journeyFrom_append hbefore, hbehind, ← journeyStrands] at hstrands
  have hbreaks₀ : (⟨.branchStart, s.frame, s.frame⟩ : Leg).breaks = true := rfl
  rw [hstrands, journeyStrands_append_cons hbreaks₀, strandsBehind_append_cons hbreaks, hlast,
    List.append_assoc]

/-! ### Curves around a branch -/

/-- The curves of what a turtle has drawn along a word, if it gets to the end of it. Branches may be
open there. -/
def curvesAlong? (settings : Settings) (r : Repertoire) (w : Word) : Option (List Slice) :=
  match walkFrom settings 0 (.start settings) (w.map r.operation) with
  | .ok s => some (curvesOf s.trace.strands)
  | .error _ => none

theorem curvesAlong?_of_walkFrom {r : Repertoire} {w : Word} {s : State}
    (h : walkFrom settings 0 (.start settings) (w.map r.operation) = .ok s) :
    curvesAlong? settings r w = some (curvesOf s.trace.strands) := by
  rw [curvesAlong?, h]

/-- The curves of what has been drawn before a branch begins in some state. -/
def curvesBefore (settings : Settings) (s : State) (ops : List Operation) : List Slice :=
  curvesOf (strandsBefore (.at (.start settings.step))
    (journeyFrom settings (.start settings) ops) ⟨.branchStart, s.frame, s.frame⟩)

/-- The curves of what is drawn after a branch that has begun in some state. -/
def curvesBehind (settings : Settings) (s : State) (ops : List Operation) : List Slice :=
  curvesOf (strandsBehind ⟨.branchEnd, s.frame, s.frame⟩ (journeyFrom settings s ops))

@[simp] theorem curvesBehind_nil (s : State) : curvesBehind settings s [] = [] := rfl

/-- The beginning of a branch ends the strands before it and draws nothing itself. -/
private theorem curvesAlong?_branchStart {r : Repertoire} {u : Word} {b : Symbol} {s : State}
    (hb : r.operation b = .branchStart)
    (hu : walkFrom settings 0 (.start settings) (u.map r.operation) = .ok s) :
    curvesAlong? settings r (u ++ [b]) =
      some (curvesBefore settings s (u.map r.operation)) := by
  -- A branch can always be begun.
  obtain ⟨s₁, hstart⟩ : ∃ s₁, s.step settings .branchStart = some s₁ := ⟨_, rfl⟩
  have hframe : s.frame = s₁.frame :=
    congrArg Stance.frame (Option.some.inj (State.stance_step_of_step hstart))
  have hwalk : walkFrom settings 0 (.start settings) ((u ++ [b]).map r.operation) = .ok s₁ := by
    rw [List.map_append, List.map_singleton, hb]
    exact walkFrom_append_eq_ok_iff.2 ⟨s, hu, walkFrom_cons_of_step hstart _ []⟩
  have hjourney : journeyFrom settings (.start settings) ((u ++ [b]).map r.operation) =
      journeyFrom settings (.start settings) (u.map r.operation) ++
        [⟨.branchStart, s.frame, s.frame⟩] := by
    rw [List.map_append, List.map_singleton, hb, journeyFrom_append hu,
      journeyFrom_cons_of_step hstart, ← hframe]
    rfl
  have hbreaks : (⟨.branchStart, s.frame, s.frame⟩ : Leg).breaks = true := rfl
  rw [curvesAlong?_of_walkFrom hwalk, strands_walkFrom hwalk, hjourney, ← journeyStrands,
    journeyStrands_append_cons hbreaks, curvesOf_append, strandsBehind_nil, curvesOf_singleton_nil,
    List.append_nil, curvesBefore]

theorem map_operation_branch {r : Repertoire} {b e : Symbol} (hb : r.operation b = .branchStart)
    (he : r.operation e = .branchEnd) (u w v : Word) :
    (u ++ b :: w ++ e :: v).map r.operation =
      u.map r.operation ++ branch (w.map r.operation) ++ v.map r.operation := by
  simp [branch, hb, he]

/-- **The curves around a branch.** Those of the branch stand between those before it and those
behind it, and they are there when the branch ends. -/
theorem exists_curves_of_branch {r : Repertoire} {u w : Word} {b e : Symbol} {s : State}
    (hb : r.operation b = .branchStart) (he : r.operation e = .branchEnd)
    (hw : Balanced (w.map r.operation))
    (hu : walkFrom settings 0 (.start settings) (u.map r.operation) = .ok s) :
    ∃ inside,
      curvesAlong? settings r (u ++ b :: w ++ [e]) =
        some (curvesBefore settings s (u.map r.operation) ++ inside) ∧
      ∀ {v : Word} {t : Trace}, trace settings r (u ++ b :: w ++ e :: v) = .ok t →
        curvesOf t.strands = curvesBefore settings s (u.map r.operation) ++ inside ++
          curvesBehind settings s (v.map r.operation) := by
  obtain ⟨s₁, hbranch⟩ := exists_walkFrom_branch hw settings (0 + (u.map r.operation).length) s
  -- What is inside depends on the state at the start only, and not on what comes behind.
  obtain ⟨inside, hinside⟩ := strands_around_branch hw hu hbranch
  refine ⟨curvesOf inside, ?_, fun {v t} ht => ?_⟩
  · -- Nothing is behind the branch when it ends.
    have hwalk : walkFrom settings 0 (.start settings) ((u ++ b :: w ++ [e]).map r.operation) =
        .ok s₁ := by
      rw [map_operation_branch hb he, List.map_nil, List.append_nil]
      exact walkFrom_append_eq_ok_iff.2 ⟨s, hu, hbranch⟩
    have hstrands := hwalk
    rw [map_operation_branch hb he] at hstrands
    rw [curvesAlong?_of_walkFrom hwalk, hinside hstrands, curvesOf_append, curvesOf_append,
      List.map_nil, ← curvesBehind, curvesBehind_nil, List.append_nil, curvesBefore]
  · obtain ⟨s', hwalk, -, rfl⟩ := walk_eq_ok_iff.1 ht
    rw [map_operation_branch hb he] at hwalk
    rw [hinside hwalk, curvesOf_append, curvesOf_append, curvesBefore, curvesBehind]

/-- **Branches keep to themselves.** If a word with a branch has a trace, and the branch is replaced
by another one, then the new word has a trace as well, and the curves of both words are the same
before the branch and behind it. Those before the branch are what has been drawn when it begins,
and with those of the branch they are what has been drawn when it ends. The curves that are cut out
of the assembled buffers are these, as long as there are words for the places of all
coordinates. -/
theorem curves_around_branch {r : Repertoire} {u v w₁ w₂ : Word} {b e : Symbol}
    (hb : r.operation b = .branchStart) (he : r.operation e = .branchEnd)
    (h₁ : Balanced (w₁.map r.operation)) (h₂ : Balanced (w₂.map r.operation)) {t₁ : Trace}
    (ht₁ : trace settings r (u ++ b :: w₁ ++ e :: v) = .ok t₁) :
    ∃ t₂, trace settings r (u ++ b :: w₂ ++ e :: v) = .ok t₂ ∧
      ∃ before behind inside₁ inside₂ : List Slice,
        curvesOf t₁.strands = before ++ inside₁ ++ behind ∧
        curvesOf t₂.strands = before ++ inside₂ ++ behind ∧
        curvesAlong? settings r (u ++ [b]) = some before ∧
        curvesAlong? settings r (u ++ b :: w₁ ++ [e]) = some (before ++ inside₁) ∧
        curvesAlong? settings r (u ++ b :: w₂ ++ [e]) = some (before ++ inside₂) ∧
        ∀ curve : Curve.Settings, ∃ b₁ b₂,
          assemble curve t₁ = .ok b₁ ∧ assemble curve t₂ = .ok b₂ ∧
          (t₁.IsAddressable → b₁.curves? = some (before ++ inside₁ ++ behind)) ∧
          (t₂.IsAddressable → b₂.curves? = some (before ++ inside₂ ++ behind)) := by
  -- Neither branch matters for whether there is a trace.
  obtain ⟨t₂, ht₂⟩ : ∃ t₂, trace settings r (u ++ b :: w₂ ++ e :: v) = .ok t₂ := by
    have htrace : ∃ t, trace settings r (u ++ b :: w₁ ++ e :: v) = .ok t := ⟨t₁, ht₁⟩
    rw [trace, map_operation_branch hb he] at htrace ⊢
    exact (exists_walk_branch_iff h₂).2 ((exists_walk_branch_iff h₁).1 htrace)
  -- Both words go the same way up to the branch.
  obtain ⟨s, hu⟩ : ∃ s, walkFrom settings 0 (.start settings) (u.map r.operation) = .ok s := by
    obtain ⟨s', hwalk, -⟩ := walk_eq_ok_iff.1 ht₁
    rw [map_operation_branch hb he, List.append_assoc, walkFrom_append_eq_ok_iff] at hwalk
    obtain ⟨s, hu, -⟩ := hwalk
    exact ⟨s, hu⟩
  obtain ⟨inside₁, hend₁, hcurves₁⟩ := exists_curves_of_branch hb he h₁ hu
  obtain ⟨inside₂, hend₂, hcurves₂⟩ := exists_curves_of_branch hb he h₂ hu
  refine ⟨t₂, ht₂, _, _, inside₁, inside₂, hcurves₁ ht₁, hcurves₂ ht₂,
    curvesAlong?_branchStart hb hu, hend₁, hend₂,
    fun curve => ⟨_, _, assemble_eq curve t₁, assemble_eq curve t₂, fun haddressable => ?_,
      fun haddressable => ?_⟩⟩
  · rw [← hcurves₁ ht₁]
    exact curves?_assembled curve haddressable
  · rw [← hcurves₂ ht₂]
    exact curves?_assembled curve haddressable

/-- A bent branch gives way to one that shrinks, branches again and leaps. The trunk before it and
the tip behind it stay, and two curves take the place of one. -/
theorem curves_around_replaced_branch :
    let r : Repertoire := ⟨#[.forward, .yaw 1, .branchStart, .branchEnd, .move, .scaleStep]⟩
    ∃ t₁ t₂, trace {} r ([0, 1] ++ 2 :: [0, 1, 0] ++ 3 :: [0]) = .ok t₁ ∧
      trace {} r ([0, 1] ++ 2 :: [5, 2, 0, 3, 4, 0] ++ 3 :: [0]) = .ok t₂ ∧
      ∃ before behind inside₁ inside₂,
        curvesOf t₁.strands = before ++ inside₁ ++ behind ∧
        curvesOf t₂.strands = before ++ inside₂ ++ behind ∧
        before.length = 1 ∧ inside₁.length = 1 ∧ inside₂.length = 2 ∧ behind.length = 1 := by
  intro r
  have hbalanced : Balanced (([0, 1] ++ 2 :: [0, 1, 0] ++ 3 :: [0] : Word).map r.operation) := by
    decide
  obtain ⟨t₁, ht₁⟩ := hbalanced.exists_walk {}
  obtain ⟨t₂, ht₂, before, behind, inside₁, inside₂, h₁, h₂, hbegin, hend₁, hend₂, -⟩ :=
    @curves_around_branch {} r [0, 1] [0] [0, 1, 0] [5, 2, 0, 3, 4, 0] 2 3 rfl rfl
      (by decide) (by decide) t₁ ht₁
  -- How many curves there are at the three places can be counted along the word.
  have hbefore : (some before).map List.length = some 1 := by
    rw [← hbegin]
    rfl
  have hinside₁ : (some (before ++ inside₁)).map List.length = some 2 := by
    rw [← hend₁]
    rfl
  have hinside₂ : (some (before ++ inside₂)).map List.length = some 3 := by
    rw [← hend₂]
    rfl
  have hall : (curvesAlong? {} r ([0, 1] ++ 2 :: [0, 1, 0] ++ 3 :: [0])).map List.length =
      some 3 := rfl
  -- The whole trace has three curves, which leaves one for what is behind.
  obtain ⟨s, hwalk, -, htrace⟩ := walk_eq_ok_iff.1 ht₁
  rw [curvesAlong?_of_walkFrom hwalk, htrace, h₁] at hall
  simp only [Option.map_some, Option.some.injEq, List.length_append]
    at hbefore hinside₁ hinside₂ hall
  exact ⟨t₁, t₂, ht₁, ht₂, before, behind, inside₁, inside₂, h₁, h₂, hbefore, by omega, by omega,
    by omega⟩

end LSystem.Turtle
