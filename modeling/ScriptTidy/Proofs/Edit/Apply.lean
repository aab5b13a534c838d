import ScriptTidy.Proofs.Edit.Merge
import ScriptTidy.Proofs.Text.Slice

/-!
# Applying edits

A merged set is applied from its last edit to its first, while all offsets are those of the text before any edit. The
edits stay apart, so the text up to where an edit stops is untouched when its turn comes: each edit finds its span
inside the text and on boundaries (`foldr_applyEdit`). The outcome is the text read from left to right, with every
replacement in the place of its span (`apply_merged_eq_rewritten`).
-/

namespace ScriptTidy

namespace EditSet

/-- The span of the edit lies in the text, with its ends in order and on boundaries. -/
structure Fits (text : String) (e : Edit) : Prop where
  ordered : e.start ≤ e.stop
  inside : e.stop ≤ text.utf8ByteSize
  start_boundary : isBoundary text e.start = true
  stop_boundary : isBoundary text e.stop = true

private theorem misfit?_eq_none_iff {source : String} {e : Edit} : misfit? source e = none ↔ Fits source e := by
  unfold misfit?
  split
  · rename_i h
    refine ⟨nofun, fun hf => ?_⟩
    have := hf.ordered
    have := hf.inside
    omega
  · rename_i h
    split
    · rename_i hb
      rw [Bool.and_eq_true] at hb
      exact ⟨fun _ => ⟨by omega, by omega, hb.1, hb.2⟩, fun _ => rfl⟩
    · rename_i hb
      exact ⟨nofun, fun hf => absurd (by simp [hf.start_boundary, hf.stop_boundary]) hb⟩

theorem validate_eq_ok_iff {set : EditSet} {source : String} :
    set.validate source = .ok () ↔ ∀ e ∈ set.edits, Fits source e := by
  have hnone : set.edits.findSome? (misfit? source) = none ↔ ∀ e ∈ set.edits, Fits source e := by
    simp only [List.findSome?_eq_none_iff, misfit?_eq_none_iff]
  rw [← hnone]
  unfold validate
  split
  · rename_i err h
    simp [h]
  · rename_i h
    simp [h]

/-- The source from `pos` on, read from left to right, with the replacement of each edit in the place of its span. -/
def rewrittenFrom? (source : String) (pos : Nat) : List Edit → Option String
  | [] => slice? source ⟨pos, source.utf8ByteSize⟩
  | e :: es =>
    match slice? source ⟨pos, e.start⟩, rewrittenFrom? source e.stop es with
    | some gap, some rest => some (gap ++ e.replacement ++ rest)
    | _, _ => none

/-- Three texts around the span of an edit that fits. -/
private theorem Fits.split {text : String} {e : Edit} (h : Fits text e) :
    ∃ a m b : String, text = a ++ m ++ b ∧ e.span = ⟨a.utf8ByteSize, (a ++ m).utf8ByteSize⟩ := by
  obtain ⟨m, hm⟩ := slice?_isSome h.ordered h.start_boundary h.stop_boundary
  obtain ⟨a, b, htext, hstart, hstop⟩ := slice?_eq_some_iff.1 hm
  refine ⟨a, m, b, htext, ?_⟩
  rw [hstart, hstop]
  rfl

private theorem fits_of_split {a m b : String} {e : Edit} (he : e.span = ⟨a.utf8ByteSize, (a ++ m).utf8ByteSize⟩) :
    Fits (a ++ m ++ b) e where
  ordered := by simp [Edit.start, Edit.stop, he]
  inside := by simp [Edit.stop, he]
  start_boundary := isBoundary_iff.2 ⟨a, m ++ b, by rw [String.append_assoc], by simp [Edit.start, he]⟩
  stop_boundary := isBoundary_iff.2 ⟨a ++ m, b, rfl, by simp [Edit.stop, he]⟩

/-- Edits that stay apart behind the text `front` leave it alone. What follows it is the source read from left to
right, and each edit fits the text that the later ones have left. -/
private theorem foldr_applyEdit {source front back : String} {es : List Edit} (hsource : source = front ++ back)
    (hfits : ∀ e ∈ es, Fits source e) (hafter : ∀ e ∈ es, front.utf8ByteSize ≤ e.start)
    (hapart : es.Pairwise fun a b => a.stop ≤ b.start) :
    (∃ rest, rewrittenFrom? source front.utf8ByteSize es = some rest ∧
        es.foldr applyEdit source = front ++ rest) ∧
      ∀ before e after, es = before ++ e :: after → Fits (after.foldr applyEdit source) e := by
  induction es generalizing front back with
  | nil =>
    refine ⟨⟨back, ?_, hsource⟩, by simp⟩
    exact slice?_eq_some_iff.2 ⟨front, "", by simpa using hsource, rfl, by rw [hsource]⟩
  | cons e es ih =>
    obtain ⟨hstop, hapart⟩ := List.pairwise_cons.1 hapart
    obtain ⟨a, m, b, hsplit, hspan⟩ := (hfits e (by simp)).split
    have hstart : e.start = a.utf8ByteSize := by simp [Edit.start, hspan]
    have hstop' : e.stop = (a ++ m).utf8ByteSize := by simp [Edit.stop, hspan]
    -- the later edits leave the text alone up to where `e` stops
    obtain ⟨⟨rest, hrest, hfold⟩, hlater⟩ := ih hsplit (fun f hf => hfits f (by simp [hf]))
      (fun f hf => hstop' ▸ hstop f hf) hapart
    obtain ⟨gap, hgap⟩ : ∃ gap, a = front ++ gap := by
      apply exists_append_of_le (b := back) (d := m ++ b)
      · rw [← hsource, hsplit, String.append_assoc]
      · have := hafter e (by simp)
        omega
    refine ⟨⟨gap ++ e.replacement ++ rest, ?_, ?_⟩, ?_⟩
    · have hslice : slice? source ⟨front.utf8ByteSize, e.start⟩ = some gap :=
        slice?_eq_some_iff.2 ⟨front, m ++ b, by rw [hsplit, hgap, String.append_assoc], rfl, by rw [hstart, hgap]⟩
      rw [← hstop'] at hrest
      simp [rewrittenFrom?, hslice, hrest]
    · rw [List.foldr_cons, hfold, applyEdit, hspan, splice_append, hgap]
      simp [String.append_assoc]
    · intro before f after heq
      cases before with
      | nil =>
        obtain ⟨rfl, rfl⟩ := List.cons.inj heq
        rw [hfold]
        exact fits_of_split hspan
      | cons g before =>
        obtain ⟨-, heq⟩ := List.cons.inj heq
        exact hlater before f after heq

private theorem apply_eq_error_iff {set : EditSet} {source : String} {err : EditError} :
    set.apply source = .error err ↔ set.validate source = .error err := by
  unfold apply
  split <;> simp_all

theorem apply_eq_ok {set : EditSet} {source : String} (h : set.validate source = .ok ()) :
    set.apply source = .ok (set.edits.foldr applyEdit source) := by
  rw [apply, h]

/-- Edits in order that fit a text can be applied, and give the source read from left to right. -/
theorem exists_rewritten (set : EditSet) {source : String} (hfits : ∀ e ∈ set.edits, Fits source e)
    (hapart : set.edits.Pairwise fun a b => a.stop ≤ b.start) :
    ∃ text, rewrittenFrom? source 0 set.edits = some text ∧ set.apply source = .ok text := by
  obtain ⟨⟨text, htext, hfold⟩, -⟩ := foldr_applyEdit (by simp : source = "" ++ source) hfits (by simp) hapart
  exact ⟨text, htext, by rw [apply_eq_ok (validate_eq_ok_iff.2 hfits), hfold, String.empty_append]⟩

theorem rewrittenFrom?_nil {source : String} {pos : Nat} (hpos : isBoundary source pos = true) :
    rewrittenFrom? source pos [] = some (slice source ⟨pos, source.utf8ByteSize⟩) :=
  slice?_eq_slice (le_of_isBoundary hpos) hpos (isBoundary_utf8ByteSize source)

theorem rewrittenFrom?_cons {source : String} {pos : Nat} {e : Edit} {es : List Edit}
    (hpos : isBoundary source pos = true) (hstart : isBoundary source e.start = true) (hle : pos ≤ e.start) :
    rewrittenFrom? source pos (e :: es) =
      (rewrittenFrom? source e.stop es).map (slice source ⟨pos, e.start⟩ ++ e.replacement ++ ·) := by
  rw [rewrittenFrom?, slice?_eq_slice hle hpos hstart]
  cases rewrittenFrom? source e.stop es <;> rfl

/-- What stands in front of the first edit can be read by itself. -/
theorem rewrittenFrom?_of_le {source : String} {i j : Nat} (hi : isBoundary source i = true)
    (hj : isBoundary source j = true) (hle : i ≤ j) {es : List Edit} (hfits : ∀ e ∈ es, Fits source e)
    (hfirst : ∀ e ∈ es, j ≤ e.start) :
    rewrittenFrom? source i es = (rewrittenFrom? source j es).map (slice source ⟨i, j⟩ ++ ·) := by
  cases es with
  | nil =>
    rw [rewrittenFrom?_nil hi, rewrittenFrom?_nil hj, Option.map_some,
      slice_append_slice hle (le_of_isBoundary hj) hi hj (isBoundary_utf8ByteSize source)]
  | cons e es =>
    have hje : j ≤ e.start := hfirst e (by simp)
    have he := (hfits e (by simp)).start_boundary
    rw [rewrittenFrom?_cons hi he (Nat.le_trans hle hje), rewrittenFrom?_cons hj he hje, Option.map_map,
      ← slice_append_slice hle hje hi hj he]
    refine congrArg (Option.map · _) (funext fun rest => ?_)
    simp [String.append_assoc]

private theorem not_fits_iff {source : String} {e : Edit} :
    ¬ Fits source e ↔ source.utf8ByteSize < e.stop ∨ e.stop < e.start ∨
      isBoundary source e.start = false ∨ isBoundary source e.stop = false := by
  constructor
  · intro h
    by_cases hin : source.utf8ByteSize < e.stop
    · exact .inl hin
    · by_cases hord : e.stop < e.start
      · exact .inr (.inl hord)
      · by_cases hs : isBoundary source e.start = true
        · refine .inr (.inr (.inr ?_))
          rw [Bool.eq_false_iff]
          intro ht
          exact h ⟨by omega, by omega, hs, ht⟩
        · exact .inr (.inr (.inl (by simpa using hs)))
  · rintro (h | h | h | h) hf
    · have := hf.inside
      omega
    · have := hf.ordered
      omega
    · simp [hf.start_boundary] at h
    · simp [hf.stop_boundary] at h

private theorem validate_fails_iff {set : EditSet} {source : String} :
    (∃ err, set.validate source = .error err) ↔ ∃ e ∈ set.edits, ¬ Fits source e := by
  have hok : set.validate source = .ok () ↔ ∀ e ∈ set.edits, Fits source e := validate_eq_ok_iff
  cases hv : set.validate source with
  | ok => simp_all
  | error err =>
    rw [hv] at hok
    simpa using hok

/-- Applying a merged set fails with the error of its validation, which is there exactly when some edit reaches beyond
the text, has its ends in the wrong order or cuts a character. Otherwise the outcome is the source read from left to
right with each replacement in the place of its span. Every edit on the way, from the last to the first, finds its
span inside the text that the later ones have left, and on boundaries of it. -/
theorem apply_merged_eq_rewritten {edits : List Edit} {set : EditSet} (h : merge edits = .ok set)
    (source : String) :
    (∀ err, set.apply source = .error err ↔ set.validate source = .error err) ∧
      ((∃ err, set.validate source = .error err) ↔
        ∃ e ∈ set.edits, source.utf8ByteSize < e.stop ∨ e.stop < e.start ∨
          isBoundary source e.start = false ∨ isBoundary source e.stop = false) ∧
      (set.validate source = .ok () →
        ∃ text, set.apply source = .ok text ∧ rewrittenFrom? source 0 set.edits = some text ∧
          ∀ before e after, set.edits = before ++ e :: after → Fits (after.foldr applyEdit source) e) := by
  refine ⟨fun _ => apply_eq_error_iff, ?_, ?_⟩
  · rw [validate_fails_iff]
    simp only [not_fits_iff]
  · intro hv
    have hapart : set.edits.Pairwise fun a b => a.stop ≤ b.start := (merge_pairwise h).imp And.right
    have hfront : source = "" ++ source := by simp
    obtain ⟨⟨text, htext, hfold⟩, hsteps⟩ :=
      foldr_applyEdit hfront (validate_eq_ok_iff.1 hv) (by simp) hapart
    refine ⟨text, ?_, by simpa using htext, hsteps⟩
    rw [apply_eq_ok hv, hfold]
    simp

theorem apply_merged_around_wide_character :
    merge [.insert 3 "!", .delete ⟨1, 3⟩, .insert 1 "«"] = .ok ⟨[.insert 1 "«", .delete ⟨1, 3⟩, .insert 3 "!"], 0⟩ ∧
      EditSet.apply ⟨[.insert 1 "«", .delete ⟨1, 3⟩, .insert 3 "!"], 0⟩ "aéb" = .ok "a«!b" := by
  have h : merge [.insert 3 "!", .delete ⟨1, 3⟩, .insert 1 "«"] =
      .ok ⟨[.insert 1 "«", .delete ⟨1, 3⟩, .insert 3 "!"], 0⟩ := by cbv
  have hv : EditSet.validate ⟨[.insert 1 "«", .delete ⟨1, 3⟩, .insert 3 "!"], 0⟩ "aéb" = .ok () := rfl
  obtain ⟨text, happly, htext, -⟩ := (apply_merged_eq_rewritten h "aéb").2.2 hv
  have hread : rewrittenFrom? "aéb" 0 [.insert 1 "«", .delete ⟨1, 3⟩, .insert 3 "!"] = some "a«!b" := by decide +kernel
  rw [hread, Option.some.injEq] at htext
  exact ⟨h, htext ▸ happly⟩

end EditSet

end ScriptTidy
