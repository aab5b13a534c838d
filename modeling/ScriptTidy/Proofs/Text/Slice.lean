import ScriptTidy.Text.Slice

/-!
# Slices as parts of a concatenation

A boundary of a text divides it into two texts, and a slice is the middle of three (`isBoundary_iff`,
`slice?_eq_some_iff`). With these two descriptions, facts about offsets become facts about `++`: a splice replaces the
middle text (`splice_append`), and what stands in front of a boundary can be cut off again (`exists_append_of_le`).
-/

namespace ScriptTidy

/-- A boundary is where the text can be cut in two. -/
theorem isBoundary_iff {s : String} {i : Nat} :
    isBoundary s i = true ↔ ∃ a b : String, s = a ++ b ∧ a.utf8ByteSize = i := by
  rw [isBoundary, String.Pos.Raw.isValid_eq_true_iff, String.Pos.Raw.isValid_iff_exists_append]
  constructor
  · rintro ⟨a, b, hs, hi⟩
    exact ⟨a, b, hs, (congrArg String.Pos.Raw.byteIdx hi).symm⟩
  · rintro ⟨a, b, hs, rfl⟩
    exact ⟨a, b, hs, rfl⟩

theorem le_of_isBoundary {s : String} {i : Nat} (h : isBoundary s i = true) : i ≤ s.utf8ByteSize := by
  obtain ⟨a, b, rfl, rfl⟩ := isBoundary_iff.1 h
  simp

/-- A slice is the middle of three texts. -/
theorem slice?_eq_some_iff {s t : String} {r : Span} :
    slice? s r = some t ↔
      ∃ a b : String, s = a ++ t ++ b ∧ a.utf8ByteSize = r.start ∧ (a ++ t).utf8ByteSize = r.stop := by
  constructor
  · intro h
    unfold slice? at h
    split at h
    · rename_i hr
      rw [Option.some.injEq] at h
      rw [String.extract_eq_copy_slice _ _ hr.1] at h
      obtain ⟨a, b, ha, hb⟩ := String.copy_slice_eq_iff_splits.1 ⟨hr.1, h⟩
      refine ⟨a, b, hb.eq_append, ?_, ?_⟩
      · exact (congrArg String.Pos.Raw.byteIdx ha.offset_eq_rawEndPos).symm
      · exact (congrArg String.Pos.Raw.byteIdx hb.offset_eq_rawEndPos).symm
    · cases h
  · rintro ⟨a, b, hs, hstart, hstop⟩
    have hle : r.start ≤ r.stop := by
      rw [← hstart, ← hstop, String.utf8ByteSize_append]
      omega
    have hs' : s = a ++ (t ++ b) := by rw [hs, String.append_assoc]
    have hb₁ : isBoundary s r.start = true := isBoundary_iff.2 ⟨a, t ++ b, hs', hstart⟩
    have hb₂ : isBoundary s r.stop = true := isBoundary_iff.2 ⟨a ++ t, b, hs, hstop⟩
    let p : s.Pos := ⟨⟨r.start⟩, String.Pos.Raw.isValid_eq_true_iff.1 hb₁⟩
    let q : s.Pos := ⟨⟨r.stop⟩, String.Pos.Raw.isValid_eq_true_iff.1 hb₂⟩
    have hp : p.Splits a (t ++ b) := ⟨hs', String.Pos.Raw.ext hstart.symm⟩
    have hq : q.Splits (a ++ t) b := ⟨hs, String.Pos.Raw.ext hstop.symm⟩
    obtain ⟨_, ht⟩ := String.copy_slice_eq_iff_splits.2 ⟨a, b, hp, hq⟩
    rw [slice?, dif_pos ⟨hle, hb₁, hb₂⟩, Option.some.injEq, String.extract_eq_copy_slice _ _ hle]
    exact ht

theorem slice?_isSome {s : String} {i j : Nat} (hle : i ≤ j) (hi : isBoundary s i = true)
    (hj : isBoundary s j = true) : ∃ t, slice? s ⟨i, j⟩ = some t := by
  rw [slice?, dif_pos ⟨hle, hi, hj⟩]
  exact ⟨_, rfl⟩

theorem slice?_eq_slice {s : String} {i j : Nat} (hle : i ≤ j) (hi : isBoundary s i = true)
    (hj : isBoundary s j = true) : slice? s ⟨i, j⟩ = some (slice s ⟨i, j⟩) := by
  obtain ⟨t, ht⟩ := slice?_isSome hle hi hj
  rw [slice, ht, Option.getD_some]

theorem ends_of_slice? {s t : String} {r : Span} (h : slice? s r = some t) :
    r.start ≤ r.stop ∧ isBoundary s r.start = true ∧ isBoundary s r.stop = true := by
  unfold slice? at h
  split at h
  · assumption
  · cases h

private theorem slice_of_append {s a t b : String} (hs : s = a ++ t ++ b) :
    slice s ⟨a.utf8ByteSize, (a ++ t).utf8ByteSize⟩ = t := by
  rw [slice, slice?_eq_some_iff.2 ⟨a, b, hs, rfl, rfl⟩, Option.getD_some]

/-- A splice replaces the middle of three texts. -/
theorem splice_append (a m b t : String) :
    splice (a ++ m ++ b) ⟨a.utf8ByteSize, (a ++ m).utf8ByteSize⟩ t = a ++ t ++ b := by
  have hfront : slice (a ++ m ++ b) ⟨0, a.utf8ByteSize⟩ = a := by
    have := slice_of_append (s := a ++ m ++ b) (a := "") (t := a) (b := m ++ b) (by simp [String.append_assoc])
    simpa using this
  have hback : slice (a ++ m ++ b) ⟨(a ++ m).utf8ByteSize, (a ++ m ++ b).utf8ByteSize⟩ = b := by
    have := slice_of_append (s := a ++ m ++ b) (a := a ++ m) (t := b) (b := "") (by simp)
    simpa using this
  rw [splice, hfront, hback]

/-- Of two ways to cut a text, the earlier one also cuts the front of the later one. -/
theorem exists_append_of_le {a b c d : String} (h : a ++ b = c ++ d) (hle : a.utf8ByteSize ≤ c.utf8ByteSize) :
    ∃ m, c = a ++ m := by
  have ha : (String.Pos.ofEqAppend (s := a ++ b) rfl).Splits a b := String.Pos.splits_ofEqAppend rfl
  have hc : (String.Pos.ofEqAppend (s := a ++ b) h).Splits c d := String.Pos.splits_ofEqAppend h
  obtain ⟨m, hm, -⟩ := (ha.le_iff_exists_eq_append hc).1 hle
  exact ⟨m, hm⟩

/-- Two slices that meet are one. -/
theorem slice_append_slice {s : String} {i j k : Nat} (hij : i ≤ j) (hjk : j ≤ k) (hi : isBoundary s i = true)
    (hj : isBoundary s j = true) (hk : isBoundary s k = true) : slice s ⟨i, j⟩ ++ slice s ⟨j, k⟩ = slice s ⟨i, k⟩ := by
  obtain ⟨a, b, hs, ha : _ = i, hab : _ = j⟩ := slice?_eq_some_iff.1 (slice?_eq_slice hij hi hj)
  obtain ⟨c, d, hs', hc : _ = j, hcd : _ = k⟩ := slice?_eq_some_iff.1 (slice?_eq_slice hjk hj hk)
  -- what stands in front of `j` is the same in both cuts
  have hfront : c = a ++ slice s ⟨i, j⟩ := by
    have heq : a ++ slice s ⟨i, j⟩ ++ b = c ++ (slice s ⟨j, k⟩ ++ d) := by rw [← hs, ← String.append_assoc, ← hs']
    obtain ⟨m, rfl⟩ := exists_append_of_le heq (by omega)
    have hm : m.utf8ByteSize = 0 := by
      simp only [String.utf8ByteSize_append] at hc hab
      omega
    rw [String.utf8ByteSize_eq_zero_iff.1 hm, String.append_empty]
  have hslice : slice? s ⟨i, k⟩ = some (slice s ⟨i, j⟩ ++ slice s ⟨j, k⟩) :=
    slice?_eq_some_iff.2 ⟨a, d, by rw [← String.append_assoc, ← hfront, ← hs'], ha,
      by rw [← String.append_assoc, ← hfront, hcd]⟩
  exact (congrArg (·.getD "") hslice).symm

theorem slice_point {s : String} {i : Nat} (hi : isBoundary s i = true) : slice s ⟨i, i⟩ = "" := by
  obtain ⟨a, b, rfl, rfl⟩ := isBoundary_iff.1 hi
  simpa using slice_of_append (show a ++ b = a ++ "" ++ b by simp)

end ScriptTidy
