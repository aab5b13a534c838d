import ScriptTidy.Proofs.Edit.Merge
import ScriptTidy.Proofs.Syntax.Nesting

/-!
# Merging deletions

Deletions whose spans lie one inside the other or apart never conflict (`merge_ok_of_laminar`). What was to be deleted
is deleted after merging, if by a wider deletion (`covered_of_merge`). Merging makes up no edit (`mem_of_mem_merge`),
and nothing is left only of nothing (`isEmpty_of_merge`).
-/

namespace ScriptTidy

/-- One of the spans covers the other, or they are apart. -/
def Span.Laminar (s t : Span) : Prop := s.covers t = true ∨ t.covers s = true ∨ s.Apart t

theorem Span.Laminar.symm {s t : Span} (h : s.Laminar t) : t.Laminar s := by
  rcases h with h | h | h
  · exact .inr (.inl h)
  · exact .inl h
  · exact .inr (.inr h.symm)

namespace EditSet

variable {edits : List Edit} {set : EditSet}

theorem mem_of_mem_merge (h : merge edits = .ok set) {e : Edit} (he : e ∈ set.edits) : e ∈ edits := by
  obtain ⟨s, hs, rfl⟩ := merge_eq_ok h
  obtain ⟨p, hp, rfl⟩ := List.mem_map.1 he
  exact mem_of_mem_agenda ((tracks_of_merge hs).mem_seen (List.mem_reverse.1 hp))

/-- An edit of the list is merged, or a merged deletion takes it in. -/
theorem mem_or_superseded_of_merge (h : merge edits = .ok set) {e : Edit} (he : e ∈ edits) :
    e ∈ set.edits ∨ ∃ d ∈ set.edits, d.supersedes e = true := by
  obtain ⟨s, hs, rfl⟩ := merge_eq_ok h
  obtain ⟨i, hi⟩ := List.getElem?_of_mem he
  have hkept : ∀ {p : PlacedEdit}, p ∈ s.kept → p.edit ∈ s.kept.reverse.map (·.edit) := fun hp =>
    List.mem_map_of_mem (List.mem_reverse.2 hp)
  rcases (tracks_of_merge hs).accounted ⟨i, e⟩ (mem_agenda.2 hi) with hk | ⟨q, hq, hqe | hqe⟩
  · exact .inl (hkept hk)
  · exact .inr ⟨q.edit, hkept hq, hqe⟩
  · replace hqe : q.edit = e := hqe
    exact .inl (hqe ▸ hkept hq)

theorem isEmpty_of_merge (h : merge edits = .ok set) : set.isEmpty = true ↔ edits = [] := by
  rw [isEmpty, List.isEmpty_iff]
  constructor
  · intro hnil
    refine List.eq_nil_iff_forall_not_mem.2 fun e he => ?_
    rcases mem_or_superseded_of_merge h he with hmem | ⟨d, hmem, -⟩
    · rw [hnil] at hmem
      cases hmem
    · rw [hnil] at hmem
      cases hmem
  · rintro rfl
    refine List.eq_nil_iff_forall_not_mem.2 fun e he => ?_
    exact absurd (mem_of_mem_merge h he) List.not_mem_nil

/-- What was to be deleted is deleted. -/
theorem covered_of_merge (h : merge edits = .ok set) {span : Span} (he : .delete span ∈ edits) :
    ∃ d ∈ set.edits, d.isDelete = true ∧ d.span.covers span = true := by
  rcases mem_or_superseded_of_merge h he with hmem | ⟨d, hd, hsup⟩
  · exact ⟨_, hmem, rfl, Span.covers_self _⟩
  · refine ⟨d, hd, Edit.isDelete_of_supersedes hsup, ?_⟩
    simp only [Edit.supersedes, Edit.isInsert, Bool.and_eq_true, Bool.false_eq_true, if_false] at hsup
    exact hsup.2

/-- Of two different deletions that overlap, one dominates the other if their spans are laminar. -/
theorem merge_ok_of_laminar (hdelete : ∀ e ∈ edits, e.isDelete = true ∧ e.start ≤ e.stop)
    (hlaminar : ∀ a ∈ edits, ∀ b ∈ edits, a.span.Laminar b.span) : ∃ set, merge edits = .ok set := by
  cases hm : merge edits with
  | ok set => exact ⟨set, rfl⟩
  | error c =>
    obtain ⟨hfirst, hsecond, hpair, hstart, hinside⟩ := conflict_spec (fun e he => (hdelete e he).2) hm
    have ha := mem_of_mem_agenda hfirst
    have hb := mem_of_mem_agenda hsecond
    -- a deletion that covers another one dominates it
    have hdominates : ∀ {x y : Edit}, x ∈ edits → y ∈ edits → x ≠ y → x.span.covers y.span = true →
        y.IsDominated edits := by
      intro x y hx hy hne hcovers
      refine ⟨x, hx, hne, ?_⟩
      simp only [Edit.supersedes, (hdelete x hx).1, Edit.isInsert_of_isDelete (hdelete y hy).1, Bool.true_and,
        Bool.false_eq_true, if_false]
      exact hcovers
    rcases hlaminar _ ha _ hb with hcovers | hcovers | hapart | hapart
    · exact absurd (hdominates ha hb hpair.ne hcovers) hpair.second_free
    · exact absurd (hdominates hb ha hpair.ne.symm hcovers) hpair.first_free
    · simp only [Edit.start, Edit.stop] at hinside
      omega
    · -- the second deletion is empty and stands at the start of the first
      have horder := (hdelete _ hb).2
      simp only [Edit.start, Edit.stop] at hinside hstart horder
      have hcovers : c.first.edit.span.covers c.second.edit.span = true := Span.covers_iff.2 ⟨by omega, by omega⟩
      exact absurd (hdominates ha hb hpair.ne hcovers) hpair.second_free

end EditSet

end ScriptTidy
