import LSystem.Curve.Assembly
import LSystem.Proofs.Curve.Strands

/-!
# What assembly makes of strands

An assembly takes events one by one. Two facts are carried along the events.

* `Consistent`: the counts account for the coordinates of all strands that have ended, and the
  length of the open strand for the rest. All counts are words, and the fact is about words: it
  holds also where a count has wrapped around. Hence every buffer that is assembled is valid
  (`assemble_eq`).
* `Assembly.ofStrands`: which strands the coordinates come from. A strand is kept if it has at
  least two points. Here the length of a strand has to be the word that stands for it, so the
  points of the trace have to be fewer than there are words (`assembled_eq_ofStrands`).
-/

namespace LSystem.Curve

open Space

/-! ### Consistency -/

/-- The counts account for all coordinates but those of `pending` points, which belong to the open
strand. -/
structure Consistent (a : Assembly) (pending : Nat) : Prop where
  exists_counted : ∃ counted, a.buffer.positions.size = 3 * (counted + pending) ∧
    a.buffer.countedVertices = UInt64.ofNat counted
  normals_eq : a.buffer.normals.size = a.buffer.positions.size
  length_eq : a.length = UInt64.ofNat pending

/-- A curve adds its length to the sum of the counts. -/
private theorem countedVertices_addCurve (b : Buffer) (length : UInt64) :
    (Assembly.addCurve b length).countedVertices = b.countedVertices + length := by
  simp [Buffer.countedVertices, Assembly.addCurve]

theorem Consistent.empty (width : Float32) : Consistent ⟨.empty width, 0⟩ 0 where
  exists_counted := ⟨0, rfl, rfl⟩
  normals_eq := rfl
  length_eq := rfl

/-- A point is pending until its strand ends. -/
theorem Consistent.addPoint {a : Assembly} {pending : Nat} (h : Consistent a pending) (p : Point) :
    Consistent (a.add (.point p)) (pending + 1) := by
  obtain ⟨counted, hsize, hcounted⟩ := h.exists_counted
  refine ⟨⟨counted, ?_, hcounted⟩, ?_, ?_⟩
  · simp only [Assembly.add, Assembly.addPoint, Assembly.pushVec, Array.size_push, hsize]
    omega
  · simp only [Assembly.add, Assembly.addPoint, Assembly.pushVec, Array.size_push, h.normals_eq]
  · rw [UInt64.ofNat_add, ← h.length_eq]
    rfl

/-- Nothing is pending when a strand has ended. -/
theorem Consistent.endStrand {a : Assembly} {pending : Nat} (h : Consistent a pending) :
    Consistent a.endStrand 0 := by
  -- The cases are those of the length, as a word; the strand itself may be longer.
  obtain ⟨counted, hsize, hcounted⟩ := h.exists_counted
  rw [Assembly.endStrand]
  split
  · -- The points that are pending are as good as none.
    next hzero =>
    refine ⟨⟨counted + pending, hsize, ?_⟩, h.normals_eq, hzero⟩
    rw [UInt64.ofNat_add, ← h.length_eq, hzero, UInt64.add_zero, hcounted]
  · next hzero =>
    obtain ⟨rest, rfl⟩ : ∃ rest, pending = rest + 1 := by
      refine Nat.exists_eq_succ_of_ne_zero ?_
      rintro rfl
      exact hzero h.length_eq
    split
    · -- One point is dropped; the others, if there are any, are as good as none.
      next hone =>
      have hrest : UInt64.ofNat rest = 0 := by
        have := h.length_eq
        rw [hone, UInt64.ofNat_add, eq_comm] at this
        exact (UInt64.add_left_inj 1).1 this
      refine ⟨⟨counted + rest, ?_, ?_⟩, ?_, rfl⟩
      · simp only [Assembly.dropPoint, Assembly.dropVec, Array.size_pop, hsize]
        omega
      · rw [UInt64.ofNat_add, hrest, UInt64.add_zero]
        exact hcounted
      · simp only [Assembly.dropPoint, Assembly.dropVec, Array.size_pop, h.normals_eq]
    · -- The strand becomes a curve, and what was pending is counted.
      refine ⟨⟨counted + (rest + 1), hsize, ?_⟩, h.normals_eq, rfl⟩
      rw [countedVertices_addCurve, hcounted, h.length_eq, UInt64.ofNat_add counted]

/-- Events keep an assembly consistent. -/
theorem Consistent.exists_foldl {a : Assembly} {pending : Nat} (h : Consistent a pending)
    (events : List Event) : ∃ pending', Consistent (events.foldl Assembly.add a) pending' := by
  induction events generalizing a pending with
  | nil => exact ⟨pending, h⟩
  | cons e events ih =>
    cases e with
    | point p => exact ih (h.addPoint p)
    | «break» => exact ih h.endStrand

/-- A buffer is valid if nothing is pending. -/
theorem Consistent.isValid {a : Assembly} (h : Consistent a 0) : a.buffer.isValid = true := by
  obtain ⟨counted, hsize, hcounted⟩ := h.exists_counted
  rw [Nat.add_zero] at hsize
  simp [Buffer.isValid, Buffer.accountsFor, Buffer.vertexCount, hsize, hcounted, h.normals_eq,
    Nat.toUInt64]

/-- What is in the buffer at the end of a trace. -/
def assembled (settings : Settings) (t : Trace) : Buffer :=
  (t.toList.foldl Assembly.add ⟨.empty settings.width, 0⟩).endStrand.buffer

/-- A buffer that has been assembled is valid. -/
theorem validate_assembled (settings : Settings) (t : Trace) :
    (assembled settings t).validate = .ok () := by
  obtain ⟨pending, hconsistent⟩ := (Consistent.empty settings.width).exists_foldl t.toList
  have hvalid : (assembled settings t).isValid = true := hconsistent.endStrand.isValid
  exact Buffer.judge_eq_ok_iff.2 hvalid

/-- **Every trace can be assembled.** -/
theorem assemble_eq (settings : Settings) (t : Trace) :
    assemble settings t = .ok (assembled settings t) := by
  change (assembled settings t).validate.map _ = _
  rw [validate_assembled]
  rfl

/-! ### The strands of a buffer -/

/-- The coordinates of vectors one after the other. -/
def coordinates (vs : List Vec3) : List Float32 := vs.flatMap Vec3.toList

/-- **The buffer of strands.** -/
def Buffer.ofStrands (width : Float32) (strands : List (List Point)) : Buffer where
  vertexCounts := (strands.map fun strand => UInt64.ofNat strand.length).toArray
  positions := (coordinates (strands.flatten.map (·.position))).toArray
  normals := (coordinates (strands.flatten.map (·.normal))).toArray
  width

/-- An assembly that has kept some strands, while the points of another one are still coming. -/
def Assembly.ofStrands (width : Float32) (kept : List (List Point)) (pending : List Point) :
    Assembly :=
  ⟨pending.foldl addPoint (.ofStrands width kept), UInt64.ofNat pending.length⟩

/-- Whether a strand makes a curve. -/
def IsCurve (strand : List Point) : Prop := 2 ≤ strand.length

instance : DecidablePred IsCurve := fun strand => inferInstanceAs (Decidable (2 ≤ strand.length))

@[simp] theorem coordinates_append (vs ws : List Vec3) :
    coordinates (vs ++ ws) = coordinates vs ++ coordinates ws := List.flatMap_append

@[simp] theorem length_coordinates (vs : List Vec3) : (coordinates vs).length = 3 * vs.length := by
  induction vs with
  | nil => rfl
  | cons v vs ih =>
    have hv : v.toList.length = 3 := rfl
    rw [coordinates, List.flatMap_cons, List.length_append, ← coordinates, ih, hv, List.length_cons]
    omega

namespace Assembly

private theorem pushVec_toArray (xs : List Float32) (v : Vec3) :
    pushVec xs.toArray v = (xs ++ v.toList).toArray := by
  simp [pushVec, Vec3.toList]

@[simp] theorem dropVec_pushVec (xs : Array Float32) (v : Vec3) : dropVec (pushVec xs v) = xs := by
  simp [dropVec, pushVec]

/-- A point that has been added can be dropped. -/
@[simp] theorem dropPoint_addPoint (b : Buffer) (p : Point) : dropPoint (addPoint b p) = b := by
  simp [dropPoint, addPoint]

/-- A strand becomes part of a buffer when its points have been added and its length is. -/
private theorem addCurve_foldl_addPoint (width : Float32) (kept : List (List Point))
    (strand : List Point) :
    addCurve (strand.foldl addPoint (.ofStrands width kept)) (UInt64.ofNat strand.length) =
      .ofStrands width (kept ++ [strand]) := by
  -- Behind any coordinates, so that the induction goes through: points add theirs.
  have hfoldl (counts : Array UInt64) (xs ns : List Float32) :
      strand.foldl addPoint ⟨counts, xs.toArray, ns.toArray, width⟩ =
        ⟨counts, (xs ++ coordinates (strand.map (·.position))).toArray,
          (ns ++ coordinates (strand.map (·.normal))).toArray, width⟩ := by
    induction strand generalizing xs ns with
    | nil => simp [coordinates]
    | cons p strand ih =>
      rw [List.foldl_cons, addPoint, pushVec_toArray, pushVec_toArray, ih]
      simp [coordinates]
  rw [Buffer.ofStrands, hfoldl]
  simp [addCurve, Buffer.ofStrands]

/-- A point makes the open strand longer. -/
private theorem add_point_ofStrands (width : Float32) (kept : List (List Point))
    (pending : List Point)
    (p : Point) :
    (ofStrands width kept pending).add (.point p) = ofStrands width kept (pending ++ [p]) := by
  rw [ofStrands, ofStrands, List.foldl_append, List.length_append, UInt64.ofNat_add]
  rfl

/-- **The end of a strand.** It is kept if it makes a curve, and forgotten if not. -/
theorem endStrand_ofStrands (width : Float32) (kept : List (List Point)) {pending : List Point}
    (h : pending.length < UInt64.size) :
    (ofStrands width kept pending).endStrand =
      ofStrands width (kept ++ [pending].filter IsCurve) [] := by
  have hlength : (UInt64.ofNat pending.length).toNat = pending.length :=
    UInt64.toNat_ofNat_of_lt' h
  match pending, h, hlength with
  | [], _, _ => simp [endStrand, ofStrands, IsCurve]
  | [p], _, _ => simp [endStrand, ofStrands, IsCurve]
  | p :: q :: strand, h, hlength =>
    -- A length of at least two is neither zero nor one, also as a word.
    have hzero : UInt64.ofNat (p :: q :: strand).length ≠ 0 := by
      intro h0
      rw [h0, List.length_cons] at hlength
      cases hlength
    have hone : UInt64.ofNat (p :: q :: strand).length ≠ 1 := by
      intro h1
      rw [h1, List.length_cons, List.length_cons] at hlength
      cases hlength
    have hcurve : IsCurve (p :: q :: strand) := Nat.le_add_left 2 strand.length
    have hkept : [p :: q :: strand].filter IsCurve = [p :: q :: strand] :=
      List.filter_cons_of_pos (decide_eq_true hcurve)
    rw [endStrand, ofStrands, if_neg hzero, if_neg hone, addCurve_foldl_addPoint, hkept]
    rfl

/-- Events are taken up by the strands that they are split into. -/
private theorem endStrand_foldl_ofStrands (width : Float32) (kept : List (List Point))
    (pending : List Point) {events : List Event}
    (h : pending.length + (events.filterMap Event.point?).length < UInt64.size) :
    (events.foldl add (ofStrands width kept pending)).endStrand =
      ofStrands width (kept ++ (Trace.strandsOnto pending.reverse events).filter IsCurve) [] := by
  induction events generalizing kept pending with
  | nil =>
    rw [List.foldl_nil, Trace.strandsOnto, List.reverse_reverse]
    exact endStrand_ofStrands width kept (by omega)
  | cons e events ih =>
    cases e with
    | point p =>
      have hcount : ((Event.point p :: events).filterMap Event.point?).length =
          (events.filterMap Event.point?).length + 1 := rfl
      have hbound :
          (pending ++ [p]).length + (events.filterMap Event.point?).length < UInt64.size := by
        rw [List.length_append, List.length_singleton]
        omega
      -- The point moves from the events to the open strand, so the bound stays the same.
      rw [List.foldl_cons, add_point_ofStrands, ih kept (pending ++ [p]) hbound,
        List.reverse_append]
      rfl
    | «break» =>
      -- The open strand is kept or forgotten, and the next one starts without points.
      rw [List.filterMap_cons_none rfl] at h
      rw [List.foldl_cons, add, endStrand_ofStrands width kept (by omega),
        ih _ [] (by rw [List.length_nil]; omega), Trace.strandsOnto, List.reverse_reverse,
        List.append_assoc, ← List.filter_append]
      rfl

end Assembly

/-- **The strands of an assembled buffer** are those that make curves. -/
theorem assembled_eq_ofStrands (settings : Settings) {t : Trace} (h : t.pointCount < UInt64.size) :
    assembled settings t = .ofStrands settings.width (t.strands.filter IsCurve) := by
  have hbound :
      ([] : List Point).length + (t.toList.filterMap Event.point?).length < UInt64.size := by
    rw [List.length_nil, Nat.zero_add]
    exact h
  have hfold := Assembly.endStrand_foldl_ofStrands settings.width [] [] hbound
  have hstart : Assembly.ofStrands settings.width [] [] = ⟨.empty settings.width, 0⟩ := rfl
  rw [hstart] at hfold
  rw [assembled, hfold]
  rfl

end LSystem.Curve
