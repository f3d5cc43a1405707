import LSystem.Proofs.Curve.Assembly
import LSystem.Proofs.Pairs

/-!
# Outlines of traces

The *outline* of a trace says which of its events are breaks, and nothing about where its points
lie. It is all that counts are made of: an assembly looks at a point only to copy its coordinates.
So traces of one outline are assembled to buffers with the same counts and with as many coordinates
(`alike_assembled`), whatever these are.
-/

namespace LSystem.Curve

/-- Whether an event ends a strand. -/
def Event.isBreak : Event → Bool
  | .point _ => false
  | .break => true

/-- **The outline of a trace:** for each event whether it is a break. -/
def Trace.outline (t : Trace) : List Bool := t.toList.map Event.isBreak

namespace Trace

@[simp] theorem outline_empty : empty.outline = [] := rfl

@[simp] theorem outline_push (t : Trace) (e : Event) :
    (t.push e).outline = t.outline ++ [e.isBreak] := by
  rw [outline, toList_push, List.map_append, List.map_singleton, outline]

@[simp] theorem outline_prepend (t : Trace) (e : Event) :
    (t.prepend e).outline = e.isBreak :: t.outline := by
  rw [outline, toList_prepend, List.map_cons, outline]

theorem length_outline (t : Trace) : t.outline.length = t.size := by
  rw [outline, List.length_map, toList, Array.length_toList, size]

/-- The outline is `true` where a break is, and nowhere else. -/
theorem getElem?_outline_eq_true_iff (t : Trace) (i : Nat) :
    t.outline[i]? = some true ↔ t.toList[i]? = some .break := by
  rw [outline, List.getElem?_map]
  cases t.toList[i]? with
  | none => simp
  | some e => cases e <;> simp [Event.isBreak]

end Trace

/-! ### Assembling outlines -/

/-- Buffers with the same counts and with as many coordinates. -/
structure Buffer.Alike (b b' : Buffer) : Prop where
  vertexCounts : b.vertexCounts = b'.vertexCounts
  size_positions : b.positions.size = b'.positions.size
  size_normals : b.normals.size = b'.normals.size

theorem Buffer.Alike.addPoint {b b' : Buffer} (h : b.Alike b') (p p' : Point) :
    (Assembly.addPoint b p).Alike (Assembly.addPoint b' p') where
  vertexCounts := h.vertexCounts
  size_positions := by simp [Assembly.addPoint, Assembly.pushVec, h.size_positions]
  size_normals := by simp [Assembly.addPoint, Assembly.pushVec, h.size_normals]

namespace Assembly

/-- Assemblies that have come equally far. -/
structure Alike (a a' : Assembly) : Prop where
  buffer : a.buffer.Alike a'.buffer
  length : a.length = a'.length

/-- The same strands are dropped and kept. -/
theorem Alike.endStrand {a a' : Assembly} (h : a.Alike a') : a.endStrand.Alike a'.endStrand := by
  unfold Assembly.endStrand
  rw [← h.length]
  -- Both strands have the same length, so they end in the same way.
  split
  · exact h
  · split
    · refine ⟨⟨h.buffer.vertexCounts, ?_, ?_⟩, rfl⟩
      · simp [dropPoint, dropVec, h.buffer.size_positions]
      · simp [dropPoint, dropVec, h.buffer.size_normals]
    · refine ⟨⟨?_, h.buffer.size_positions, h.buffer.size_normals⟩, rfl⟩
      rw [addCurve, addCurve, h.buffer.vertexCounts]

theorem Alike.add {a a' : Assembly} (h : a.Alike a') {e e' : Event} (he : e.isBreak = e'.isBreak) :
    (a.add e).Alike (a'.add e') := by
  cases e with
  | point p =>
    cases e' with
    | point p' => exact ⟨h.buffer.addPoint p p', congrArg (· + 1) h.length⟩
    | «break» => cases he
  | «break» =>
    cases e' with
    | point p' => cases he
    | «break» => exact h.endStrand

theorem Alike.foldl_add {a a' : Assembly} (h : a.Alike a') {events events' : List Event}
    (he : events.map Event.isBreak = events'.map Event.isBreak) :
    (events.foldl Assembly.add a).Alike (events'.foldl Assembly.add a') := by
  rw [map_eq_map_iff_forall₂] at he
  induction he generalizing a a' with
  | nil => exact h
  | cons hfirst _ ih => exact ih (h.add hfirst)

end Assembly

/-- **Counts depend on the outline only,** and so do the numbers of coordinates. -/
theorem alike_assembled {t t' : Trace} (h : t.outline = t'.outline)
    (settings settings' : Settings) :
    (assembled settings t).Alike (assembled settings' t') := by
  have hstart : Assembly.Alike ⟨.empty settings.width, 0⟩ ⟨.empty settings'.width, 0⟩ :=
    ⟨⟨rfl, rfl, rfl⟩, rfl⟩
  exact (hstart.foldl_add h).endStrand.buffer

end LSystem.Curve
