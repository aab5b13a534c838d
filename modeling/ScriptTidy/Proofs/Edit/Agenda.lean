import Mathlib.Tactic.Tauto
import ScriptTidy.Proofs.Edit.Merge

/-!
# The order in which the sweep meets the edits

Two edits are alike when they are of one kind and one span. The order of the sweep tells them apart by their places
alone, so it is a stable sort: it brings the classes of edits that are alike into an order of their own
(`Edit.isLike_of_comesBefore`), and each class keeps the order of the list (`filter_isLike_agenda`). No other list of
edits has both properties (`map_edit_agenda_eq`).
-/

namespace ScriptTidy

namespace Edit

/-- The edits are of one kind and one span. -/
def isLike (e f : Edit) : Bool := e.span = f.span && e.rank = f.rank

/-- The order of the sweep between edits of one place. -/
def comesBefore (e f : Edit) : Bool := PlacedEdit.comesBefore ⟨0, e⟩ ⟨0, f⟩

private theorem isLike_iff {e f : Edit} : e.isLike f = true ↔ e.span = f.span ∧ e.rank = f.rank := by simp [isLike]

@[simp] theorem isLike_self (e : Edit) : e.isLike e = true := by simp [isLike]

/-- Edits that are alike are like the same edits. -/
theorem isLike_congr {e f : Edit} (h : e.isLike f = true) : e.isLike = f.isLike := by
  obtain ⟨hspan, hrank⟩ := isLike_iff.1 h
  funext g
  simp only [isLike, hspan, hrank]

theorem start_eq_of_isLike {e f : Edit} (h : e.isLike f = true) : e.start = f.start := by
  rw [start, (isLike_iff.1 h).1, start]

theorem stop_eq_of_isLike {e f : Edit} (h : e.isLike f = true) : e.stop = f.stop := by
  rw [stop, (isLike_iff.1 h).1, stop]

theorem isInsert_eq_of_isLike {e f : Edit} (h : e.isLike f = true) : e.isInsert = f.isInsert := by
  have hrank := (isLike_iff.1 h).2
  cases e <;> cases f <;> first | rfl | cases hrank

private theorem isDelete_eq_of_isLike {e f : Edit} (h : e.isLike f = true) : e.isDelete = f.isDelete := by
  have hrank := (isLike_iff.1 h).2
  cases e <;> cases f <;> first | rfl | cases hrank

/-- Deletions that are alike are equal. -/
theorem eq_of_isLike {e f : Edit} (h : e.isLike f = true) (he : e.isDelete = true) : e = f :=
  eq_of_isDelete he (isDelete_eq_of_isLike h ▸ he) (start_eq_of_isLike h) (stop_eq_of_isLike h)

/-- A deletion takes in both of two edits that are alike, or none. -/
theorem supersedes_eq_of_isLike (d : Edit) {e f : Edit} (h : e.isLike f = true) :
    d.supersedes e = d.supersedes f := by
  rw [supersedes, supersedes, isInsert_eq_of_isLike h, start_eq_of_isLike h, (isLike_iff.1 h).1]

/-- Edits that the order of the sweep does not tell apart are alike. -/
theorem isLike_of_comesBefore {e f : Edit} (hef : e.comesBefore f = true) (hfe : f.comesBefore e = true) :
    e.isLike f = true := by
  simp only [comesBefore, PlacedEdit.comesBefore_iff] at hef hfe
  have hinsert : e.isInsert = f.isInsert := by
    cases he : e.isInsert <;> cases hf : f.isInsert <;> simp only [he, hf] at hef hfe ⊢ <;> simp at hef hfe <;> omega
  simp only [hinsert] at hef hfe
  have hends : e.start = f.start ∧ e.stop = f.stop ∧ e.rank = f.rank := by
    cases hf : f.isInsert <;> simp only [hf] at hef hfe <;> simp at hef hfe <;> omega
  exact isLike_iff.2 ⟨span_eq_iff.2 ⟨hends.1, hends.2.1⟩, hends.2.2⟩

private theorem mem_iff_of_filter_eq {l m : List Edit} (h : ∀ e : Edit, l.filter e.isLike = m.filter e.isLike)
    (e : Edit) : e ∈ l ↔ e ∈ m := by
  have hclass : e ∈ l.filter e.isLike ↔ e ∈ m.filter e.isLike := by rw [h]
  simpa [List.mem_filter] using hclass

/-- Sorted lists are equal when they hold the same edits of each class in the same order. -/
theorem eq_of_sorted {l m : List Edit} (hl : l.Pairwise fun e f => e.comesBefore f = true)
    (hm : m.Pairwise fun e f => e.comesBefore f = true) (h : ∀ e : Edit, l.filter e.isLike = m.filter e.isLike) :
    l = m := by
  induction l generalizing m with
  | nil =>
    have hnil : ∀ e, e ∉ m := fun e he => List.not_mem_nil ((mem_iff_of_filter_eq h e).2 he)
    exact (List.eq_nil_iff_forall_not_mem.2 hnil).symm
  | cons a l ih =>
    have hmem := mem_iff_of_filter_eq h
    cases m with
    | nil => exact absurd ((hmem a).1 (by simp)) List.not_mem_nil
    | cons b m =>
      obtain ⟨ha, hsortl⟩ := List.pairwise_cons.1 hl
      obtain ⟨hb, hsortm⟩ := List.pairwise_cons.1 hm
      -- each of the two heads comes before the other, unless they are the same edit
      have hlike : a.isLike b = true := by
        rcases List.mem_cons.1 ((hmem a).1 (by simp)) with rfl | ham
        · exact isLike_self _
        rcases List.mem_cons.1 ((hmem b).2 (by simp)) with rfl | hbl
        · exact isLike_self _
        exact isLike_of_comesBefore (ha b hbl) (hb a ham)
      have hhead := h a
      rw [List.filter_cons_of_pos (isLike_self a), List.filter_cons_of_pos hlike, List.cons.injEq] at hhead
      obtain rfl := hhead.1
      have hrest : ∀ e : Edit, l.filter e.isLike = m.filter e.isLike := by
        intro e
        have hclass := h e
        simp only [List.filter_cons] at hclass
        split at hclass
        · exact (List.cons.inj hclass).2
        · exact hclass
      rw [ih hsortl hsortm hrest]

end Edit

namespace PlacedEdit

private theorem map_edit_number (k : Nat) (edits : List Edit) : (number k edits).map (·.edit) = edits := by
  induction edits generalizing k with
  | nil => rfl
  | cons e es ih => simp [number, ih]

/-- The numbers of a list go up. -/
private theorem number_pairwise (k : Nat) (edits : List Edit) :
    (number k edits).Pairwise fun p q => p.index < q.index := by
  have h : ((number k edits).map (·.index)).Pairwise (· < ·) := by
    rw [map_index_number]
    exact List.pairwise_lt_range'
  exact List.pairwise_map.1 h

theorem edit_comesBefore {p q : PlacedEdit} (h : p.comesBefore q = true) : p.edit.comesBefore q.edit = true := by
  rw [Edit.comesBefore, comesBefore_iff]
  rw [comesBefore_iff] at h
  tauto

/-- Of edits that are alike, the one with the smaller number comes first. -/
private theorem comesBefore_of_isLike {p q : PlacedEdit} (h : p.edit.isLike q.edit = true) (hle : p.index ≤ q.index) :
    p.comesBefore q = true := by
  have hrank := (Edit.isLike_iff.1 h).2
  exact comesBefore_iff.2 (.inr ⟨Edit.start_eq_of_isLike h, .inr ⟨Edit.isInsert_eq_of_isLike h,
    .inr ⟨Edit.stop_eq_of_isLike h, .inr ⟨hrank, hle⟩⟩⟩⟩)

end PlacedEdit

namespace EditSet

theorem map_edit_agenda_sorted (edits : List Edit) :
    ((agenda edits).map (·.edit)).Pairwise fun e f => e.comesBefore f = true :=
  List.pairwise_map.2 ((agenda_sorted edits).imp PlacedEdit.edit_comesBefore)

/-- Edits that are alike are met in the order of the list. -/
theorem filter_agenda (edits : List Edit) (e : Edit) :
    (agenda edits).filter (e.isLike ·.edit) = (PlacedEdit.number 0 edits).filter (e.isLike ·.edit) := by
  have hsorted : ((PlacedEdit.number 0 edits).filter (e.isLike ·.edit)).Pairwise
      fun p q => p.comesBefore q = true := by
    refine ((PlacedEdit.number_pairwise 0 edits).filter _).imp_of_mem fun {p q} hp hq hlt => ?_
    have hlike : p.edit.isLike q.edit = true := by
      rw [← Edit.isLike_congr (List.mem_filter.1 hp).2]
      exact (List.mem_filter.1 hq).2
    exact PlacedEdit.comesBefore_of_isLike hlike (Nat.le_of_lt hlt)
  have hsub : ((PlacedEdit.number 0 edits).filter (e.isLike ·.edit)).Sublist
      ((agenda edits).filter (e.isLike ·.edit)) := by
    have h := (List.sublist_mergeSort PlacedEdit.comesBefore_trans PlacedEdit.comesBefore_total hsorted
      List.filter_sublist).filter (e.isLike ·.edit)
    rwa [List.filter_filter, funext fun _ => Bool.and_self _] at h
  exact (hsub.eq_of_length ((agenda_perm edits).filter _).length_eq.symm).symm

theorem filter_isLike_agenda (edits : List Edit) (e : Edit) :
    ((agenda edits).map (·.edit)).filter e.isLike = edits.filter e.isLike := by
  calc
    ((agenda edits).map (·.edit)).filter e.isLike
      = ((agenda edits).filter (e.isLike ·.edit)).map (·.edit) := List.filter_map
    _ = ((PlacedEdit.number 0 edits).filter (e.isLike ·.edit)).map (·.edit) := by rw [filter_agenda]
    _ = ((PlacedEdit.number 0 edits).map (·.edit)).filter e.isLike := by rw [List.filter_map]; rfl
    _ = edits.filter e.isLike := by rw [PlacedEdit.map_edit_number]

/-- A sorted list that holds the edits of each class in the order of `edits` is the order of the sweep. -/
theorem map_edit_agenda_eq {edits l : List Edit} (hl : l.Pairwise fun e f => e.comesBefore f = true)
    (h : ∀ e : Edit, l.filter e.isLike = edits.filter e.isLike) : (agenda edits).map (·.edit) = l :=
  Edit.eq_of_sorted (map_edit_agenda_sorted edits) hl fun e => (filter_isLike_agenda edits e).trans (h e).symm

end EditSet

end ScriptTidy
