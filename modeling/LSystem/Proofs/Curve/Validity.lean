import LSystem.Proofs.Curve.Slices

/-!
# What validity of a buffer is good for

A buffer is cut into curves by adding up its counts, and it has been validated by adding them up as
well. Both sums are words, so they agree with each other even where they wrap around. That is enough
for two things: if the cutting comes to its end, it has given one curve for each count, and the
curves put together are all of the coordinates (`parts_of_curvesFrom?`). For each curve begins where
the one before it ended, and the last one ends where the sum of the counts says, at the end of all.

It is not enough for the cutting to come to its end, nor for the curves to be as long as their
counts say. Counts may be far too large and yet add up to the number of vertices once they have
wrapped around; a validated buffer can promise more vertices than there is memory. Only if the sum
is small enough for a word does every place on the way stand for itself, and then the curves are
what the counts promise (`exists_curvesFrom?_of_le`). The condition cannot be improved, which is
what `curves?_of_validate` says, and `curves?_of_wrapped_counts` shows both ways to go wrong.

A build in which the program stops where a sum has no word does not go wrong in this way, but it
does not refuse such counts either: the validation itself stops. For to add counts one by one and
to stop on the way is the same as to add all of them and to look at the sum (`foldlM_add_eq`).
-/

namespace LSystem.Curve

namespace Buffer

/-- The number of vertices that counts promise, as a number that does not wrap around. -/
def promised : List UInt64 → Nat
  | [] => 0
  | count :: counts => count.toNat + promised counts

@[simp] theorem promised_nil : promised [] = 0 := rfl

@[simp] theorem promised_cons (count : UInt64) (counts : List UInt64) :
    promised (count :: counts) = count.toNat + promised counts := rfl

/-- The sum of the counts as a word is what they promise, up to wrapping around. -/
theorem foldl_add_eq (offset : UInt64) (counts : List UInt64) :
    counts.foldl (· + ·) offset = offset + UInt64.ofNat (promised counts) := by
  induction counts generalizing offset with
  | nil => simp
  | cons count counts ih =>
    rw [List.foldl_cons, ih, promised_cons, UInt64.ofNat_add, UInt64.ofNat_toNat, UInt64.add_assoc]

/-- **Counts are added up one by one with the outcome of adding all of them at once.** -/
theorem foldlM_add_eq (o : Overflow) (offset : UInt64) (counts : List UInt64) :
    counts.foldlM o.add offset = o.word? (offset.toNat + promised counts) := by
  induction counts generalizing offset with
  | nil =>
    rw [promised_nil, Nat.add_zero, Overflow.word?_of_lt offset.toNat_lt, UInt64.ofNat_toNat]
    rfl
  | cons count counts ih =>
    rw [List.foldlM_cons, promised_cons, ← Nat.add_assoc, Overflow.add]
    by_cases h : offset.toNat + count.toNat < UInt64.size
    · rw [Overflow.word?_of_lt h, Option.bind_eq_bind, Option.bind_some, ih,
        UInt64.toNat_ofNat_of_lt' h]
    · cases o with
      | wraps =>
        simp only [Overflow.word?, Option.bind_eq_bind, Option.bind_some, ih, UInt64.ofNat_add,
          UInt64.ofNat_toNat]
      | stops =>
        -- What has no word already has none with more added to it.
        rw [Overflow.word?, if_neg h, Overflow.word?, if_neg (by omega)]
        rfl

theorem countedVertices_eq (b : Buffer) :
    b.countedVertices = UInt64.ofNat (promised b.vertexCounts.toList) := by
  rw [countedVertices, ← Array.foldl_toList, foldl_add_eq, UInt64.zero_add]

theorem countedVertices?_eq (o : Overflow) (b : Buffer) :
    b.countedVertices? o = o.word? (promised b.vertexCounts.toList) := by
  rw [countedVertices?, foldlM_add_eq, UInt64.toNat_zero, Nat.zero_add]

/-! ### Parts of an array -/

/-- What has been sliced out of an array lies within it. -/
theorem slice?_eq_some_iff {xs : Array Float32} {first last : UInt64} {part : List Float32} :
    slice? xs first last = some part ↔
      first.toNat ≤ last.toNat ∧ last.toNat ≤ xs.size ∧
        (xs.extract first.toNat last.toNat).toList = part := by
  unfold slice?
  split
  · next h => simp [UInt64.le_iff_toNat_le.1 h.1, h.2]
  · next h =>
    simp only [reduceCtorEq, false_iff]
    exact fun hpart => h ⟨UInt64.le_iff_toNat_le.2 hpart.1, hpart.2.1⟩

/-- A slice between two places within an array is as long as they are apart. -/
private theorem exists_slice? {xs : Array Float32} {first last : UInt64} {n : Nat}
    (hlast : last.toNat = first.toNat + n) (hsize : last.toNat ≤ xs.size) :
    ∃ part, slice? xs first last = some part ∧ part.length = n := by
  -- The end lies within the array, so the extract is not cut short.
  refine ⟨_, slice?_eq_some_iff.2 ⟨by omega, hsize, rfl⟩, ?_⟩
  rw [Array.length_toList, Array.size_extract]
  omega

/-- Parts of an array that follow each other. -/
private theorem toList_extract_append {xs : Array Float32} {i j k : Nat} (hij : i ≤ j)
    (hjk : j ≤ k) :
    (xs.extract i j).toList ++ (xs.extract j k).toList = (xs.extract i k).toList := by
  rw [← Array.toList_append, Array.extract_append_extract, Nat.min_eq_left hij,
    Nat.max_eq_right hjk]

/-! ### Buffers that can be cut -/

/-- **What has been cut** behind some offset: a curve for each count, and the coordinates from this
offset up to the sum of the counts. -/
theorem parts_of_curvesFrom? {o : Overflow} {b : Buffer} {offset : UInt64} {counts : List UInt64}
    {slices : List Slice} (h : b.curvesFrom? o offset counts = some slices) :
    let first := (offset * 3).toNat
    let last := (counts.foldl (· + ·) offset * 3).toNat
    slices.length = counts.length ∧ first ≤ last ∧
      slices.flatMap (·.positions) = (b.positions.extract first last).toList ∧
      slices.flatMap (·.normals) = (b.normals.extract first last).toList := by
  induction counts generalizing offset slices with
  | nil =>
    cases h
    simp
  | cons count counts ih =>
    rw [curvesFrom?] at h
    simp only [Option.bind_eq_bind, Option.bind_eq_some_iff, Option.pure_def,
      Option.some.injEq] at h
    obtain ⟨first, hfirst, next, hnext, last, hlast, positions, hpositions, normals, hnormals,
      others, hothers, rfl⟩ := h
    -- Where the program goes on, the words are those of the build that wraps around.
    cases Overflow.eq_mul_of_mul hfirst
    cases Overflow.eq_add_of_add hnext
    cases Overflow.eq_mul_of_mul hlast
    obtain ⟨hle, -, rfl⟩ := slice?_eq_some_iff.1 hpositions
    obtain ⟨-, -, rfl⟩ := slice?_eq_some_iff.1 hnormals
    obtain ⟨hlength, hbehind, hrest, hrest'⟩ := ih hothers
    -- The other curves begin where this one ends.
    refine ⟨congrArg (· + 1) hlength, Nat.le_trans hle hbehind, ?_, ?_⟩
    · rw [List.flatMap_cons, hrest]
      exact toList_extract_append hle hbehind
    · rw [List.flatMap_cons, hrest']
      exact toList_extract_append hle hbehind

/-- **Buffers that promise what they hold** can be cut, and every curve is as long as its count
says. -/
theorem exists_curvesFrom?_of_le {o : Overflow} {b : Buffer}
    (hnormals : b.normals.size = b.positions.size) (hsize : b.positions.size < UInt64.size)
    {before : Nat} {counts : List UInt64}
    (h : 3 * (before + promised counts) ≤ b.positions.size) :
    ∃ slices, b.curvesFrom? o (UInt64.ofNat before) counts = some slices ∧
      slices.map (·.positions.length) = counts.map (3 * ·.toNat) ∧
      slices.map (·.normals.length) = counts.map (3 * ·.toNat) := by
  induction counts generalizing before with
  | nil => exact ⟨[], rfl, rfl, rfl⟩
  | cons count counts ih =>
    rw [promised_cons] at h
    -- All places on the way are places of coordinates, so each of them has a word.
    have hfirst : o.mul (UInt64.ofNat before) 3 = some (UInt64.ofNat (3 * before)) :=
      Overflow.mul_three (by omega)
    have hnext : o.add (UInt64.ofNat before) count =
        some (UInt64.ofNat (before + count.toNat)) := by
      have := Overflow.add_ofNat (o := o) (m := before) (n := count.toNat) (by omega)
      rwa [UInt64.ofNat_toNat] at this
    have hlast : o.mul (UInt64.ofNat (before + count.toNat)) 3 =
        some (UInt64.ofNat (3 * (before + count.toNat))) := Overflow.mul_three (by omega)
    have hslice {xs : Array Float32} (hxs : xs.size = b.positions.size) :
        ∃ part, slice? xs (UInt64.ofNat (3 * before)) (UInt64.ofNat (3 * (before + count.toNat))) =
          some part ∧ part.length = 3 * count.toNat := by
      refine exists_slice? ?_ ?_
      · rw [UInt64.toNat_ofNat_of_lt' (by omega), UInt64.toNat_ofNat_of_lt' (by omega), Nat.mul_add]
      · rw [UInt64.toNat_ofNat_of_lt' (by omega)]
        omega
    -- The curve is cut out of both arrays, and the rest begins behind it.
    obtain ⟨positions, hpositions, hlength⟩ := hslice rfl
    obtain ⟨normals, hnormals', hlength'⟩ := hslice hnormals
    have hrest : 3 * (before + count.toNat + promised counts) ≤ b.positions.size := by omega
    obtain ⟨others, hothers, hlengths, hlengths'⟩ := ih hrest
    refine ⟨⟨positions, normals⟩ :: others, ?_, ?_, ?_⟩
    · simp only [curvesFrom?, hfirst, hnext, hlast, hpositions, hnormals', hothers,
        Option.bind_eq_bind, Option.bind_some, Option.pure_def]
    · rw [List.map_cons, List.map_cons, hlengths, hlength]
    · rw [List.map_cons, List.map_cons, hlengths', hlength']

/-! ### Validated buffers -/

/-- Validation as in a build for release. -/
@[simp] theorem validate?_wraps (b : Buffer) : b.validate? .wraps = some b.validate := by
  rw [validate?, countedVertices?_eq, validate, countedVertices_eq]
  rfl

/-- **Where validation stops:** at counts that promise a number without a word. -/
theorem validate?_stops_eq_none_iff {b : Buffer} :
    b.validate? .stops = none ↔ UInt64.size ≤ promised b.vertexCounts.toList := by
  rw [validate?, countedVertices?_eq, Option.map_eq_none_iff, Overflow.word?, ite_eq_right_iff]
  simp

/-- **What validity says:** the counts promise the stored vertices up to wrapping around, no vertex
lacks a coordinate, and there are as many normals. -/
theorem facts_of_validate? {o : Overflow} {b : Buffer} (h : b.validate? o = some (.ok ())) :
    UInt64.ofNat (promised b.vertexCounts.toList) = UInt64.ofNat b.vertexCount ∧
      3 * b.vertexCount = b.positions.size ∧ b.normals.size = b.positions.size := by
  rw [validate?, countedVertices?_eq, Option.map_eq_some_iff] at h
  obtain ⟨counted, hcounted, hjudge⟩ := h
  have hvalid := judge_eq_ok_iff.1 hjudge
  simp only [accountsFor, Bool.and_eq_true, beq_iff_eq] at hvalid
  obtain ⟨⟨hcount, hthree⟩, hnormals⟩ := hvalid
  refine ⟨?_, ?_, hnormals⟩
  · exact (Overflow.eq_ofNat_of_word? hcounted).symm.trans hcount
  · unfold vertexCount
    omega

/-- Curves that are as long as their counts say have the promised number of vertices. -/
private theorem length_flatMap_of_lengths {slices : List Slice} {counts : List UInt64}
    {f : Slice → List Float32}
    (h : slices.map (fun slice => (f slice).length) = counts.map (3 * ·.toNat)) :
    (slices.flatMap f).length = 3 * promised counts := by
  rw [List.length_flatMap, h]
  clear h
  induction counts with
  | nil => rfl
  | cons count counts ih => rw [List.map_cons, List.sum_cons, ih, promised_cons, Nat.mul_add]

/-- **Cutting a validated buffer,** however the program has been built. If the cutting comes to its
end, there is a curve for each count, and the curves together are all of the coordinates. It comes
to its end, with curves that are as long as their counts say, exactly if the promised number of
vertices has a word. Where the program stops at sums without a word, the validation stops exactly
if it has none; so there a buffer that has been validated is always cut as it promises. -/
theorem curves?_of_validate {b : Buffer} (hsize : b.positions.size < UInt64.size) :
    (∀ o, b.validate? o = some (.ok ()) →
      (∀ slices, b.cut? o = some slices →
        slices.length = b.curveCount ∧
          slices.flatMap (·.positions) = b.positions.toList ∧
          slices.flatMap (·.normals) = b.normals.toList) ∧
      ((∃ slices, b.cut? o = some slices ∧
          slices.map (·.positions.length) = b.vertexCounts.toList.map (3 * ·.toNat) ∧
          slices.map (·.normals.length) = b.vertexCounts.toList.map (3 * ·.toNat)) ↔
        promised b.vertexCounts.toList < UInt64.size)) ∧
    (b.validate? .stops = none ↔ UInt64.size ≤ promised b.vertexCounts.toList) := by
  refine ⟨fun o hvalid => ?_, validate?_stops_eq_none_iff⟩
  obtain ⟨hcounts, hvertices, hnormals⟩ := facts_of_validate? hvalid
  have hend : (UInt64.ofNat b.vertexCount * 3).toNat = b.positions.size := by
    have hthree : (3 : UInt64) = UInt64.ofNat 3 := rfl
    rw [hthree, ← UInt64.ofNat_mul, UInt64.toNat_ofNat_of_lt' (by omega), Nat.mul_comm, hvertices]
  -- The cutting begins at zero and ends at the sum of the counts, which is where the arrays end.
  have hparts : ∀ slices, b.cut? o = some slices →
      slices.length = b.curveCount ∧
        slices.flatMap (·.positions) = b.positions.toList ∧
        slices.flatMap (·.normals) = b.normals.toList := by
    intro slices hslices
    obtain ⟨hlength, -, hpositions, hnormals'⟩ := parts_of_curvesFrom? hslices
    rw [foldl_add_eq, UInt64.zero_add, hcounts, hend, UInt64.zero_mul,
      UInt64.toNat_zero] at hpositions hnormals'
    refine ⟨hlength, ?_, ?_⟩
    · rw [hpositions, Array.extract_size]
    · rw [hnormals', ← hnormals, Array.extract_size]
  refine ⟨hparts, ⟨?_, ?_⟩⟩
  · rintro ⟨slices, hslices, hlengths, -⟩
    -- All coordinates are in memory, so three times their number of vertices has a word.
    have htotal := length_flatMap_of_lengths hlengths
    rw [(hparts slices hslices).2.1, Array.length_toList] at htotal
    omega
  · intro hpromised
    -- The promised number and the stored one are the same word, so they are the same.
    have heq : promised b.vertexCounts.toList = b.vertexCount := by
      have := congrArg UInt64.toNat hcounts
      rwa [UInt64.toNat_ofNat_of_lt' hpromised, UInt64.toNat_ofNat_of_lt' (by omega)] at this
    have hstored : 3 * (0 + promised b.vertexCounts.toList) ≤ b.positions.size := by omega
    exact exists_curvesFrom?_of_le hnormals hsize hstored

/-- A buffer of two curves, in which the promised three vertices are three. -/
theorem curves?_of_two_and_one :
    let b : Buffer := ⟨#[2, 1], #[0, 0, 0, 0, 1, 0, 0, 2, 0], #[0, 0, 1, 0, 0, 1, 0, 0, 1], 1⟩
    (∀ o, b.validate? o = some (.ok ()) ∧
      ∃ slices, b.cut? o = some slices ∧ slices.map (·.positions.length) = [6, 3] ∧
        slices.flatMap (·.positions) = b.positions.toList) ∧
    promised b.vertexCounts.toList = 3 := by
  intro b
  have hpromised : promised b.vertexCounts.toList = 3 := by decide
  refine ⟨fun o => ?_, hpromised⟩
  have hvalid : b.validate? o = some (.ok ()) := by cases o <;> decide
  obtain ⟨hparts, hcut⟩ := (curves?_of_validate (by decide)).1 o hvalid
  obtain ⟨slices, hslices, hlengths, -⟩ := hcut.2 (by rw [hpromised]; decide)
  exact ⟨hvalid, slices, hslices, hlengths, (hparts slices hslices).2.1⟩

/-- **Counts that wrap around** may be valid. Two counts that add up to nothing cannot be cut, and
two counts that add up to one vertex are cut into curves of other lengths than they say. A program
that stops at sums without a word stops at either buffer and refuses neither. -/
theorem curves?_of_wrapped_counts :
    (∃ b : Buffer, b.vertexCounts = #[9223372036854775808, 9223372036854775808] ∧
      b.validate = .ok () ∧ b.curves? = none ∧ b.validate? .stops = none) ∧
    (∃ b : Buffer, b.vertexCounts = #[12297829382473034411, 6148914691236517206] ∧
      b.validate = .ok () ∧ b.validate? .stops = none ∧
      ∃ slices, b.curves? = some slices ∧ slices.map (·.positions.length) = [1, 2]) := by
  refine ⟨⟨⟨#[9223372036854775808, 9223372036854775808], #[], #[], 1⟩, rfl, ?_, ?_, ?_⟩,
    ⟨⟨#[12297829382473034411, 6148914691236517206], #[1, 2, 3], #[4, 5, 6], 1⟩, rfl, ?_, ?_,
      [⟨[1], [4]⟩, ⟨[2, 3], [5, 6]⟩], ?_, rfl⟩⟩
  · decide
  · decide
  · decide
  · decide
  · decide
  · decide

end Buffer
end LSystem.Curve
