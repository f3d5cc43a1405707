import LSystem.Proofs.Curve.Assembly
import Mathlib.Data.List.Defs
import Mathlib.Data.List.Flatten

/-!
# Cutting buffers into curves

The curves of a buffer are cut out of its coordinates by adding up counts, and places are three
times as far as counts. If every place among the coordinates has a word, none of this wraps
around, and a buffer of strands is cut into these strands (`cut?_ofStrands`). With that,
assembling a trace and cutting the buffer gives the strands of the trace that make curves
(`curves?_assembled`). The strands that make none have no segments either, so the segments of
the curves are those of all strands (`flatMap_polyline_filter`).
-/

namespace LSystem.Curve

open Space

/-- The coordinates of a strand. -/
def Slice.ofStrand (strand : List Point) : Slice :=
  ⟨coordinates (strand.map (·.position)), coordinates (strand.map (·.normal))⟩

/-- The curves that strands make. -/
def curvesOf (strands : List (List Point)) : List Slice :=
  (strands.filter IsCurve).map Slice.ofStrand

@[simp] theorem curvesOf_append (strands strands' : List (List Point)) :
    curvesOf (strands ++ strands') = curvesOf strands ++ curvesOf strands' := by
  rw [curvesOf, List.filter_append, List.map_append]
  rfl

/-- An empty strand makes no curve. -/
@[simp] theorem curvesOf_singleton_nil : curvesOf [[]] = [] := rfl

/-- Whether all coordinates of a trace have places that words can stand for. Coordinates that fit
into memory do. -/
def Trace.IsAddressable (t : Trace) : Prop := 3 * t.pointCount < UInt64.size

instance (t : Trace) : Decidable t.IsAddressable :=
  inferInstanceAs (Decidable (3 * t.pointCount < UInt64.size))

/-- The vectors in the middle of others are found by the numbers of vectors before them and among
them. -/
private theorem slice?_coordinates (us vs ws : List Vec3)
    (h : 3 * (us ++ vs ++ ws).length < UInt64.size) :
    Buffer.slice? (coordinates (us ++ vs ++ ws)).toArray (UInt64.ofNat (3 * us.length))
      (UInt64.ofNat (3 * (us.length + vs.length))) = some (coordinates vs) := by
  rw [List.length_append, List.length_append] at h
  -- Neither place wraps around, because the end of all coordinates does not.
  have hfirst : (UInt64.ofNat (3 * us.length)).toNat = 3 * us.length :=
    UInt64.toNat_ofNat_of_lt' (by omega)
  have hlast : (UInt64.ofNat (3 * (us.length + vs.length))).toNat =
      3 * us.length + 3 * vs.length := by
    rw [UInt64.toNat_ofNat_of_lt' (by omega), Nat.mul_add]
  have hwithin : UInt64.ofNat (3 * us.length) ≤ UInt64.ofNat (3 * (us.length + vs.length)) ∧
      (UInt64.ofNat (3 * (us.length + vs.length))).toNat ≤
        (coordinates (us ++ vs ++ ws)).toArray.size := by
    rw [UInt64.le_iff_toNat_le, hfirst, hlast, List.size_toArray, length_coordinates,
      List.length_append, List.length_append]
    omega
  -- What is before the first place is dropped, and what is left is taken up to the last one.
  rw [Buffer.slice?, if_pos hwithin, hfirst, hlast, List.extract_toArray, List.extract_eq_take_drop,
    coordinates_append, coordinates_append, List.append_assoc,
    List.drop_left' (length_coordinates us), Nat.add_sub_cancel_left,
    List.take_left' (length_coordinates vs)]

/-- A buffer is cut into the strands that follow some others. -/
private theorem curvesFrom?_ofStrands (o : Overflow) (width : Float32)
    (before later : List (List Point))
    (h : 3 * (before ++ later).flatten.length < UInt64.size) :
    (Buffer.ofStrands width (before ++ later)).curvesFrom? o (UInt64.ofNat before.flatten.length)
      (later.map fun strand => UInt64.ofNat strand.length) = some (later.map Slice.ofStrand) := by
  -- The induction is on the strands that are left, and what has been cut goes to the others.
  induction later generalizing before with
  | nil => rfl
  | cons strand later ih =>
    have hsplit : (before ++ strand :: later).flatten =
        before.flatten ++ strand ++ later.flatten := by simp
    have hlength : 3 * (before.flatten.length + strand.length) < UInt64.size := by
      rw [hsplit, List.length_append, List.length_append] at h
      omega
    -- The next curve is the strand, wherever it stands among the coordinates.
    have hslice (f : Point → Vec3) :
        Buffer.slice? (coordinates ((before ++ strand :: later).flatten.map f)).toArray
          (UInt64.ofNat (3 * before.flatten.length))
          (UInt64.ofNat (3 * (before.flatten.length + strand.length))) =
        some (coordinates (strand.map f)) := by
      have := slice?_coordinates (before.flatten.map f) (strand.map f) (later.flatten.map f)
        (by simpa only [hsplit, List.length_append, List.length_map] using h)
      simpa only [hsplit, List.map_append, List.length_map] using this
    -- Behind the strand the cutting goes on where the strand ends.
    have hnext : before ++ strand :: later = before ++ [strand] ++ later := by simp
    have hoffset : before.flatten.length + strand.length = (before ++ [strand]).flatten.length := by
      simp
    have hrest := ih (before ++ [strand]) (by rwa [← hnext])
    rw [← hnext, ← hoffset] at hrest
    rw [List.map_cons, Buffer.curvesFrom?, Overflow.mul_three (by omega),
      Overflow.add_ofNat (by omega)]
    simp only [Option.bind_eq_bind, Option.bind_some]
    rw [Overflow.mul_three hlength, Option.bind_some, hrest, Buffer.ofStrands, hslice, hslice]
    rfl

/-- **A buffer of strands is cut into these strands,** however the program has been built. -/
theorem cut?_ofStrands (o : Overflow) (width : Float32) {strands : List (List Point)}
    (h : 3 * strands.flatten.length < UInt64.size) :
    (Buffer.ofStrands width strands).cut? o = some (strands.map Slice.ofStrand) :=
  curvesFrom?_ofStrands o width [] strands h

/-- The strands that make curves have no more points than the trace. -/
theorem length_flatten_curves_le (t : Trace) :
    (t.strands.filter IsCurve).flatten.length ≤ t.pointCount := by
  rw [Trace.pointCount, ← Trace.flatten_strands]
  exact (List.Sublist.flatten List.filter_sublist).length_le

/-- **The curves of a trace** are its strands of at least two points, in their order. -/
theorem curves?_assembled (settings : Settings) {t : Trace} (h : t.IsAddressable) :
    (assembled settings t).curves? = some ((t.strands.filter IsCurve).map Slice.ofStrand) := by
  -- The strands that are kept have no more coordinates than the trace.
  have hle := length_flatten_curves_le t
  rw [Trace.IsAddressable] at h
  rw [assembled_eq_ofStrands settings (by omega)]
  exact cut?_ofStrands .wraps settings.width (by omega)

/-! ### Segments -/

/-- The vectors that a list of coordinates describes. -/
def vectors : List Float32 → List Vec3
  | x :: y :: z :: xs => ⟨x, y, z⟩ :: vectors xs
  | _ => []

/-- The segments of a strand: from each of its points to the next. -/
def polyline (strand : List Point) : List (Vec3 × Vec3) :=
  (strand.map (·.position)).consecutivePairs

/-- The segments of a curve. -/
def Slice.segments (c : Slice) : List (Vec3 × Vec3) := (vectors c.positions).consecutivePairs

theorem vectors_coordinates (vs : List Vec3) : vectors (coordinates vs) = vs := by
  induction vs with
  | nil => rfl
  | cons v vs ih =>
    rw [coordinates, List.flatMap_cons, ← coordinates]
    exact congrArg (v :: ·) ih

/-- A curve has the segments of its strand. -/
@[simp] theorem segments_ofStrand (strand : List Point) :
    (Slice.ofStrand strand).segments = polyline strand := by
  rw [Slice.segments, Slice.ofStrand, vectors_coordinates, polyline]

/-- A strand that makes no curve has no segments. -/
private theorem polyline_of_not_isCurve {strand : List Point} (h : ¬ IsCurve strand) :
    polyline strand = [] := by
  match strand, h with
  | [], _ => rfl
  | [_], _ => rfl
  | p :: q :: strand, h => exact absurd (Nat.le_add_left 2 strand.length) h

/-- No segment is lost with the strands that make no curves. -/
theorem flatMap_polyline_filter (strands : List (List Point)) :
    (strands.filter IsCurve).flatMap polyline = strands.flatMap polyline := by
  -- A strand that is left out would have given nothing.
  induction strands with
  | nil => rfl
  | cons strand strands ih =>
    by_cases h : IsCurve strand
    · rw [List.filter_cons_of_pos (by simpa using h), List.flatMap_cons, List.flatMap_cons, ih]
    · rw [List.filter_cons_of_neg (by simpa using h), List.flatMap_cons,
        polyline_of_not_isCurve h, ih, List.nil_append]

end LSystem.Curve
