import Mathlib.Tactic.ByContra
import ScriptTidy.Proofs.Edit.Merge

/-!
# Conflicts and overlaps

The two edits of a conflict overlap, and neither takes in the other, with one exception: the second is a deletion or
replacement of the empty span at which the first, a replacement of some bytes, starts (`conflict_overlaps_iff`). The
sweep meets the wider of the two first and finds the empty span inside of it, where an insertion comes before.
-/

namespace ScriptTidy

namespace Edit

/-- `e` deletes or replaces the empty span at which `f`, a replacement of some bytes, starts. -/
def IsPointAtStart (e f : Edit) : Prop :=
  e.isInsert = false ∧ e.span = .point f.start ∧ f.isDelete = false ∧ f.start < f.stop

theorem overlaps_iff {e f : Edit} : e.overlaps f = true ↔ e.start < f.stop ∧ f.start < e.stop := Span.overlaps_iff

/-- An edit that starts inside another one overlaps with it, unless it is empty and stands at the start. -/
private theorem overlaps_of_inside {e f : Edit} (hf : f.start ≤ f.stop) (hstart : e.start ≤ f.start)
    (hinside : f.start < e.stop) : e.overlaps f = true ↔ f.span ≠ .point e.start := by
  rw [overlaps_iff]
  constructor
  · rintro ⟨hlt, -⟩ hpoint
    have hstop : f.stop = e.start := (span_eq_iff.1 hpoint).2
    omega
  · intro hne
    refine ⟨?_, hinside⟩
    by_contra hle
    have hends : f.start = e.start ∧ f.stop = e.start := by omega
    exact hne (span_eq_iff.2 hends)

/-- A deletion takes in what is empty and stands at its start, insertions apart. -/
private theorem supersedes_of_point {e f : Edit} (he : e.isDelete = true) (hf : f.isInsert = false)
    (hpoint : f.span = .point e.start) (hle : e.start ≤ e.stop) : e.supersedes f = true := by
  obtain ⟨hstart, hstop⟩ : f.start = e.start ∧ f.stop = e.start := span_eq_iff.1 hpoint
  rw [supersedes_iff]
  refine ⟨he, ?_⟩
  simp only [hf, Bool.false_eq_true, ↓reduceIte, hstart, hstop]
  exact ⟨Nat.le_refl _, hle⟩

end Edit

namespace EditSet

/-- Neither of two edits in conflict takes in the other. -/
private theorem not_supersedes_of_conflictIn {edits : List Edit} {a b : Edit} (ha : a ∈ edits)
    (hpair : Edit.ConflictIn edits a b) : a.supersedes b = false := by
  rw [Bool.eq_false_iff]
  intro hsup
  exact hpair.second_free ⟨a, ha, hpair.ne, hsup⟩

/-- The edits of a conflict are not taken in by each other, and they overlap unless the second is the empty span at
which the first, a replacement of some bytes, starts. -/
theorem conflict_overlaps_iff {edits : List Edit} (hvalid : ∀ e ∈ edits, e.start ≤ e.stop) {c : Conflict}
    (h : merge edits = .error c) :
    c.first.edit.supersedes c.second.edit = false ∧ c.second.edit.supersedes c.first.edit = false ∧
      (c.first.edit.overlaps c.second.edit = true ↔ ¬ c.second.edit.IsPointAtStart c.first.edit) := by
  obtain ⟨hfirst, hsecond, hpair, hstart, hinside⟩ := conflict_spec hvalid h
  have ha := mem_of_mem_agenda hfirst
  have hb := mem_of_mem_agenda hsecond
  have hfree := not_supersedes_of_conflictIn ha hpair
  refine ⟨hfree, not_supersedes_of_conflictIn hb hpair.symm, ?_⟩
  rw [Edit.overlaps_of_inside (hvalid _ hb) hstart hinside, ne_eq, not_iff_not]
  refine ⟨fun hpoint => ?_, fun h => h.2.1⟩
  have hsame : c.second.edit.start = c.first.edit.start := (Edit.span_eq_iff.1 hpoint).1
  have hinsert : c.second.edit.isInsert = false := by
    rcases hpair.clashes with hlt | hlt | ⟨-, -, hinsert, -⟩
    · omega
    · omega
    · exact hinsert
  refine ⟨hinsert, hpoint, ?_, by omega⟩
  rw [Bool.eq_false_iff]
  intro hdelete
  rw [Edit.supersedes_of_point hdelete hinsert hpoint (hvalid _ ha)] at hfree
  cases hfree

theorem conflict_overlaps_inside_replacement :
    ∃ c, merge [.replace ⟨4, 6⟩ "y", .delete ⟨8, 9⟩, .replace ⟨2, 5⟩ "x"] = .error c ∧
      c.first.edit.supersedes c.second.edit = false ∧ c.second.edit.supersedes c.first.edit = false ∧
      c.first.edit.overlaps c.second.edit = true := by
  have hvalid : ∀ e ∈ [Edit.replace ⟨4, 6⟩ "y", .delete ⟨8, 9⟩, .replace ⟨2, 5⟩ "x"], e.start ≤ e.stop := by decide
  have h : merge [.replace ⟨4, 6⟩ "y", .delete ⟨8, 9⟩, .replace ⟨2, 5⟩ "x"] =
      .error ⟨⟨2, .replace ⟨2, 5⟩ "x"⟩, ⟨0, .replace ⟨4, 6⟩ "y"⟩⟩ := by cbv
  obtain ⟨hfirst, hsecond, hoverlaps⟩ := conflict_overlaps_iff hvalid h
  exact ⟨_, h, hfirst, hsecond, hoverlaps.2 fun hpoint => absurd hpoint.2.1 (by decide)⟩

/-- A replacement of the empty span in front of another replacement is refused, though it overlaps with nothing. -/
theorem apart_replacements_conflict :
    ∃ c, (∀ e ∈ [Edit.replace ⟨0, 3⟩ "x", .replace ⟨0, 0⟩ "y"], e.start ≤ e.stop) ∧
      merge [.replace ⟨0, 3⟩ "x", .replace ⟨0, 0⟩ "y"] = .error c ∧
      c.first.edit.overlaps c.second.edit = false :=
  ⟨⟨⟨0, .replace ⟨0, 3⟩ "x"⟩, ⟨1, .replace ⟨0, 0⟩ "y"⟩⟩, by decide, by cbv, by decide⟩

end EditSet

end ScriptTidy
