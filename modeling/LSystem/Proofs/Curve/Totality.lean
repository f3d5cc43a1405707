import LSystem.Proofs.Curve.Slices

/-!
# What assembly gives

Assembling a trace never fails. The buffer that comes out has the width of the settings, whatever
the trace is, and it holds exactly the strands of the trace that have at least two points
(`assemble_keeps_curves`): their lengths, their coordinates one after the other, and nothing else.

The counts of a buffer are words and the lengths of strands are not, so the second half speaks of
traces whose coordinates have places that words can stand for. No other trace fits into memory.
-/

namespace LSystem.Curve

/-! ### Widths -/

namespace Assembly

@[simp] theorem width_endStrand (a : Assembly) : a.endStrand.buffer.width = a.buffer.width := by
  unfold endStrand
  split
  · rfl
  · split <;> rfl

@[simp] theorem width_add (a : Assembly) (e : Event) : (a.add e).buffer.width = a.buffer.width := by
  cases e with
  | point p => rfl
  | «break» => exact width_endStrand a

private theorem width_foldl_add (a : Assembly) (events : List Event) :
    (events.foldl add a).buffer.width = a.buffer.width := by
  induction events generalizing a with
  | nil => rfl
  | cons e events ih => rw [List.foldl_cons, ih, width_add]

end Assembly

theorem width_assembled (settings : Settings) (t : Trace) :
    (assembled settings t).width = settings.width := by
  rw [assembled, Assembly.width_endStrand, Assembly.width_foldl_add]
  rfl

/-! ### Counts -/

/-- The counts of a buffer of strands are their lengths, if these are numbers that words can
stand for. -/
theorem toNat_vertexCounts_ofStrands (width : Float32) {strands : List (List Point)}
    (h : strands.flatten.length < UInt64.size) :
    (Buffer.ofStrands width strands).vertexCounts.toList.map UInt64.toNat =
      strands.map List.length := by
  have hcount : ∀ strand ∈ strands, (UInt64.ofNat strand.length).toNat = strand.length := by
    intro strand hstrand
    -- A strand is not longer than all of them together.
    have hle : strand.length ≤ strands.flatten.length :=
      (List.sublist_flatten_of_mem hstrand).length_le
    exact UInt64.toNat_ofNat_of_lt' (Nat.lt_of_le_of_lt hle h)
  rw [Buffer.ofStrands, List.toList_toArray, List.map_map]
  exact List.map_congr_left hcount

/-! ### Buffers -/

/-- **Assembly never fails and keeps exactly the strands that make curves.** The strands of a trace
are what its events are joined from. Those with at least two points are kept: the counts are their
lengths, the coordinates are those of their points and no others, and the curves that are cut out
of the buffer are these strands one by one. -/
theorem assemble_keeps_curves (settings : Settings) (t : Trace) :
    let kept := t.strands.filter IsCurve
    (∃ first others, t.strands = first :: others ∧ t.toList = joinStrands first others) ∧
    ∃ b, assemble settings t = .ok b ∧ b.validate = .ok () ∧ b.width = settings.width ∧
      (t.IsAddressable →
        b.vertexCounts.toList.map UInt64.toNat = kept.map List.length ∧
        b.positions.toList = coordinates (kept.flatten.map (·.position)) ∧
        b.normals.toList = coordinates (kept.flatten.map (·.normal)) ∧
        b.curves? = some (kept.map Slice.ofStrand)) := by
  intro kept
  have hassemble : assemble settings t = .ok (assembled settings t) := assemble_eq settings t
  refine ⟨t.exists_toList_eq_joinStrands, assembled settings t, hassemble,
    validate_assembled settings t, width_assembled settings t, fun haddressable => ?_⟩
  -- There are fewer points than words, and the strands that are kept have no more of them.
  have hpoints : 3 * t.pointCount < UInt64.size := haddressable
  have hkept : kept.flatten.length ≤ t.pointCount := length_flatten_curves_le t
  have hbuffer : assembled settings t = .ofStrands settings.width kept :=
    assembled_eq_ofStrands settings (by omega)
  refine ⟨?_, ?_, ?_, curves?_assembled settings haddressable⟩
  · rw [hbuffer]
    exact toNat_vertexCounts_ofStrands settings.width (by omega)
  · rw [hbuffer]
    rfl
  · rw [hbuffer]
    rfl

/-- Two strands of seven make curves; the others are empty or have one point only. -/
theorem assemble_keeps_two_curves :
    let p : Point := ⟨⟨0, 1, 0⟩, ⟨0, 0, 1⟩⟩
    let q : Point := ⟨⟨2, 1, 0⟩, ⟨1, 0, 0⟩⟩
    let t : Trace := .ofList [.break, .point p, .break, .point q, .point p, .break, .break,
      .point p, .point p, .point q, .break, .point q, .break]
    ∃ b, assemble ⟨3⟩ t = .ok b ∧ b.width = 3 ∧
      b.vertexCounts.toList.map UInt64.toNat = [2, 3] ∧
      b.curves? = some [⟨[2, 1, 0, 0, 1, 0], [1, 0, 0, 0, 0, 1]⟩,
        ⟨[0, 1, 0, 0, 1, 0, 2, 1, 0], [0, 0, 1, 0, 0, 1, 1, 0, 0]⟩] := by
  intro p q t
  obtain ⟨-, b, hb, -, hwidth, hcontents⟩ := assemble_keeps_curves ⟨3⟩ t
  obtain ⟨hcounts, -, -, hcurves⟩ := hcontents (by decide)
  exact ⟨b, hb, hwidth, hcounts.trans rfl, hcurves.trans rfl⟩

end LSystem.Curve
