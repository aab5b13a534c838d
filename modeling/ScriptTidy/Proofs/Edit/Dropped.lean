import Mathlib.Data.List.Nodup
import Mathlib.Data.List.Perm.Basic
import Mathlib.Data.Option.Basic
import ScriptTidy.Proofs.Edit.Agenda

/-!
# What was dropped has no influence

A step that drops an edit leaves all that the sweep looks at as it was. So two sweeps of which one skips edits that the
other drops go in lock step (`Sweep.run_filter`), and a list can be merged without the edits that merging drops, or
without some of them, to the same outcome (`merge_without_dropped`).
-/

namespace ScriptTidy

namespace EditSet

namespace Sweep

/-- The sweeps hold the same edits, at whatever places, after any number of dropped ones. -/
structure Agrees (s t : Sweep) : Prop where
  kept : s.kept.map (·.edit) = t.kept.map (·.edit)
  cover : s.cover = t.cover
  furthest : s.furthest.map (·.edit) = t.furthest.map (·.edit)

namespace Agrees

variable {s t s' : Sweep} {p q : PlacedEdit}

theorem refl (s : Sweep) : s.Agrees s := ⟨rfl, rfl, rfl⟩

private theorem drops_eq (h : s.Agrees t) (e : Edit) : s.drops e = t.drops e := by
  have hhead : ∀ u : Sweep, u.drops e = (u.cover.any (·.supersedes e) || (u.kept.map (·.edit)).head?.any (· = e)) := by
    intro u
    simp [drops, List.head?_map, Option.any_map]
  rw [hhead, hhead, h.kept, h.cover]

private theorem furthest_le (h : s.Agrees t) {start : Nat} (hs : ∀ r ∈ s.furthest, r.edit.stop ≤ start) :
    ∀ r ∈ t.furthest, r.edit.stop ≤ start := by
  intro r hr
  have hmem : r.edit ∈ s.furthest.map (·.edit) := h.furthest ▸ Option.mem_map_of_mem _ hr
  obtain ⟨r', hr', heq⟩ := Option.mem_map.1 hmem
  exact heq ▸ hs r' hr'

theorem keep (h : s.Agrees t) (hpq : p.edit = q.edit) : (s.keep p).Agrees (t.keep q) := by
  have hall : ∀ u : Sweep, u.furthest.all (·.edit.stop ≤ p.edit.stop) =
      (u.furthest.map (·.edit)).all (·.stop ≤ p.edit.stop) := by
    intro u
    simp [Option.all_map]
  refine ⟨?_, ?_, ?_⟩
  · simp [Sweep.keep, hpq, h.kept]
  · simp [Sweep.keep, hpq, h.cover]
  · simp only [Sweep.keep, ← hpq, hall, h.furthest]
    split
    · simp [hpq]
    · exact h.furthest

/-- Sweeps that hold the same edits take the same step at the same edit. -/
theorem step (h : s.Agrees t) (hpq : p.edit = q.edit) (hs : s.step p = .ok s') :
    ∃ t', t.step q = .ok t' ∧ s'.Agrees t' := by
  rcases step_eq_ok hs with ⟨hd, rfl⟩ | ⟨hd, hf, rfl⟩
  · exact ⟨_, step_of_drops (hpq ▸ h.drops_eq _ ▸ hd), h.kept, h.cover, h.furthest⟩
  · exact ⟨_, step_of_apart (hpq ▸ h.drops_eq _ ▸ hd) (hpq ▸ h.furthest_le hf), h.keep hpq⟩

end Agrees

/-- A run forgets no edit that it has kept. -/
private theorem mem_kept_of_run {s s' : Sweep} {ps : List PlacedEdit} (hrun : s.run ps = .ok s') {p : PlacedEdit}
    (hp : p ∈ s.kept) : p ∈ s'.kept := by
  induction ps generalizing s with
  | nil =>
    cases hrun
    exact hp
  | cons q qs ih =>
    unfold run at hrun
    split at hrun
    · cases hrun
    · rename_i s₁ hs₁
      refine ih hrun ?_
      rcases step_eq_ok hs₁ with ⟨-, rfl⟩ | ⟨-, -, rfl⟩
      · exact hp
      · exact List.mem_cons_of_mem q hp

/-- A run can do without edits that it does not keep. The places of the edits do not matter, only their order. -/
theorem run_filter {s t s' : Sweep} {ps qs : List PlacedEdit} (hrun : s.run ps = .ok s') (hst : s.Agrees t)
    {stays : PlacedEdit → Bool} (hstays : ∀ p ∈ s'.kept, stays p = true)
    (hqs : qs.map (·.edit) = (ps.filter stays).map (·.edit)) : ∃ t', t.run qs = .ok t' ∧ s'.Agrees t' := by
  induction ps generalizing s t qs with
  | nil =>
    cases hrun
    obtain rfl : qs = [] := by simpa using hqs
    exact ⟨t, rfl, hst⟩
  | cons p ps ih =>
    unfold run at hrun
    split at hrun
    · cases hrun
    rename_i s₁ hs₁
    by_cases hp : stays p = true
    · -- both sweeps meet `p`
      rw [List.filter_cons_of_pos hp, List.map_cons, List.map_eq_cons_iff] at hqs
      obtain ⟨q, qs, rfl, hpq, hqs⟩ := hqs
      obtain ⟨t₁, ht₁, hagree⟩ := hst.step hpq.symm hs₁
      obtain ⟨t', ht', hagree'⟩ := ih hrun hagree hqs
      refine ⟨t', ?_, hagree'⟩
      rw [run, ht₁]
      exact ht'
    · -- only one of them does, and it drops `p`
      rw [List.filter_cons_of_neg hp] at hqs
      refine ih hrun ?_ hqs
      rcases step_eq_ok hs₁ with ⟨-, rfl⟩ | ⟨-, -, rfl⟩
      · exact ⟨hst.kept, hst.cover, hst.furthest⟩
      · exact absurd (hstays p (mem_kept_of_run hrun (List.mem_cons_self ..))) hp

end Sweep

/-- The edits that merging keeps, with their places in the list, in the order of the text. None when merging fails. -/
def keptEdits (edits : List Edit) : List PlacedEdit :=
  match Sweep.empty.run (agenda edits) with
  | .ok s => s.kept.reverse
  | .error _ => []

variable {edits : List Edit} {set : EditSet}

private theorem keptEdits_of_run {s : Sweep} (h : Sweep.empty.run (agenda edits) = .ok s) :
    keptEdits edits = s.kept.reverse := by
  rw [keptEdits, h]

private theorem map_edit_keptEdits (h : merge edits = .ok set) : (keptEdits edits).map (·.edit) = set.edits := by
  obtain ⟨s, hs, rfl⟩ := merge_eq_ok h
  rw [keptEdits_of_run hs]

private theorem keptEdits_sublist (h : merge edits = .ok set) : (keptEdits edits).Sublist (agenda edits) := by
  obtain ⟨s, hs, rfl⟩ := merge_eq_ok h
  rw [keptEdits_of_run hs]
  exact (tracks_of_merge hs).sublist

private theorem agenda_nodup (edits : List Edit) : (agenda edits).Nodup := (agenda_index_nodup edits).of_map _

/-- A list that is swept like the kept edits with some of the dropped ones is merged to the same edits. -/
private theorem merge_of_filter (h : merge edits = .ok set) {stays : PlacedEdit → Bool}
    (hkept : ∀ p ∈ keptEdits edits, stays p = true) {rest : List Edit}
    (hrest : (agenda rest).map (·.edit) = ((agenda edits).filter stays).map (·.edit)) :
    ∃ dropped, merge rest = .ok ⟨set.edits, dropped⟩ := by
  obtain ⟨s, hs, rfl⟩ := merge_eq_ok h
  have hstays : ∀ p ∈ s.kept, stays p = true := fun p hp =>
    hkept p (keptEdits_of_run hs ▸ List.mem_reverse.2 hp)
  obtain ⟨t, ht, hagree⟩ := Sweep.run_filter hs (.refl _) hstays hrest
  refine ⟨t.superseded, ?_⟩
  rw [merge_of_run ht, List.map_reverse, List.map_reverse, hagree.kept]

private theorem filter_mem_of_sublist {l m : List PlacedEdit} (hl : l.Nodup) (hm : m.Sublist l) :
    l.filter (· ∈ m) = m := by
  refine (hl.perm_iff_eq_of_sublist List.filter_sublist hm).1 ?_
  refine (List.perm_ext_iff_of_nodup (hl.filter _) (hl.sublist hm)).2 fun p => ?_
  simpa using fun hp => hm.subset hp

/-- What is left of a list is swept in the order in which the whole list is swept. -/
private theorem agenda_of_sublist {rest : List PlacedEdit} (hrest : rest.Sublist (PlacedEdit.number 0 edits)) :
    (agenda (rest.map (·.edit))).map (·.edit) = ((agenda edits).filter (· ∈ rest)).map (·.edit) := by
  have hnodup : (PlacedEdit.number 0 edits).Nodup := (agenda_perm edits).nodup_iff.1 (agenda_nodup edits)
  refine map_edit_agenda_eq ((map_edit_agenda_sorted edits).sublist (List.filter_sublist.map _)) fun e => ?_
  have hclass : ((agenda edits).filter (· ∈ rest)).filter (e.isLike ·.edit) = rest.filter (e.isLike ·.edit) := by
    calc
      ((agenda edits).filter (· ∈ rest)).filter (e.isLike ·.edit)
        = ((agenda edits).filter (e.isLike ·.edit)).filter (· ∈ rest) := List.filter_comm ..
      _ = ((PlacedEdit.number 0 edits).filter (e.isLike ·.edit)).filter (· ∈ rest) := by rw [filter_agenda]
      _ = ((PlacedEdit.number 0 edits).filter (· ∈ rest)).filter (e.isLike ·.edit) := List.filter_comm ..
      _ = rest.filter (e.isLike ·.edit) := by rw [filter_mem_of_sublist hnodup hrest]
  rw [List.filter_map, List.filter_map]
  exact congrArg (List.map (·.edit)) hclass

/-- Edits that are kept are merged again to themselves. -/
theorem merge_merged (h : merge edits = .ok set) : merge set.edits = .ok ⟨set.edits, 0⟩ := by
  have hedits := map_edit_keptEdits h
  have hsub := keptEdits_sublist h
  have hsorted : set.edits.Pairwise fun e f => e.comesBefore f = true :=
    (map_edit_agenda_sorted edits).sublist (hedits ▸ hsub.map _)
  have hagenda : (agenda set.edits).map (·.edit) = ((agenda edits).filter (· ∈ keptEdits edits)).map (·.edit) := by
    rw [map_edit_agenda_eq hsorted fun _ => rfl, filter_mem_of_sublist (agenda_nodup edits) hsub, hedits]
  obtain ⟨dropped, hmerge⟩ := merge_of_filter h (by simp) hagenda
  have hcount := length_add_superseded_of_merge hmerge
  obtain rfl : dropped = 0 := by simpa using hcount
  exact hmerge

/-- A list that can be merged can be merged without any of the edits that are dropped: what is left, if it still has
the kept edits, is merged to the same edits, and the number of dropped ones is the number of other edits in it. The
merged edits themselves are merged to themselves, and nothing is dropped. -/
theorem merge_without_dropped (h : merge edits = .ok set) :
    (keptEdits edits).map (·.edit) = set.edits ∧
      (∀ rest : List PlacedEdit, rest.Sublist (PlacedEdit.number 0 edits) → (∀ p ∈ keptEdits edits, p ∈ rest) →
        merge (rest.map (·.edit)) = .ok ⟨set.edits, (rest.filter (· ∉ keptEdits edits)).length⟩) ∧
      merge set.edits = .ok ⟨set.edits, 0⟩ := by
  refine ⟨map_edit_keptEdits h, fun rest hrest hkept => ?_, merge_merged h⟩
  obtain ⟨dropped, hmerge⟩ := merge_of_filter h (by simpa using hkept) (agenda_of_sublist hrest)
  have hnodup : rest.Nodup := ((agenda_perm edits).nodup_iff.1 (agenda_nodup edits)).sublist hrest
  have hperm : (rest.filter (· ∈ keptEdits edits)).Perm (keptEdits edits) := by
    refine (List.perm_ext_iff_of_nodup (hnodup.filter _) ((agenda_nodup edits).sublist (keptEdits_sublist h))).2 ?_
    intro p
    simpa using hkept p
  have hcount : set.edits.length + dropped = rest.length := by
    simpa using length_add_superseded_of_merge hmerge
  have hsplit := List.length_eq_length_filter_add (l := rest) (· ∈ keptEdits edits)
  have hsize : set.edits.length = (keptEdits edits).length := by rw [← map_edit_keptEdits h, List.length_map]
  rw [hperm.length_eq] at hsplit
  have hdropped : dropped = (rest.filter (· ∉ keptEdits edits)).length := by
    simp only [decide_not]
    omega
  rw [hmerge, hdropped]

theorem merge_without_dropped_nested :
    merge [.insert 3 "!", .delete ⟨0, 6⟩, .replace ⟨8, 9⟩ "x", .delete ⟨2, 4⟩, .replace ⟨8, 9⟩ "x", .insert 6 "y"] =
        .ok ⟨[.delete ⟨0, 6⟩, .insert 6 "y", .replace ⟨8, 9⟩ "x"], 3⟩ ∧
      merge [.delete ⟨0, 6⟩, .replace ⟨8, 9⟩ "x", .delete ⟨2, 4⟩, .insert 6 "y"] =
        .ok ⟨[.delete ⟨0, 6⟩, .insert 6 "y", .replace ⟨8, 9⟩ "x"], 1⟩ ∧
      merge [.delete ⟨0, 6⟩, .insert 6 "y", .replace ⟨8, 9⟩ "x"] =
        .ok ⟨[.delete ⟨0, 6⟩, .insert 6 "y", .replace ⟨8, 9⟩ "x"], 0⟩ := by
  let edits : List Edit :=
    [.insert 3 "!", .delete ⟨0, 6⟩, .replace ⟨8, 9⟩ "x", .delete ⟨2, 4⟩, .replace ⟨8, 9⟩ "x", .insert 6 "y"]
  let rest : List PlacedEdit :=
    [⟨1, .delete ⟨0, 6⟩⟩, ⟨2, .replace ⟨8, 9⟩ "x"⟩, ⟨3, .delete ⟨2, 4⟩⟩, ⟨5, .insert 6 "y"⟩]
  have h : merge edits = .ok ⟨[.delete ⟨0, 6⟩, .insert 6 "y", .replace ⟨8, 9⟩ "x"], 3⟩ := by cbv
  have hkept : keptEdits edits = [⟨1, .delete ⟨0, 6⟩⟩, ⟨5, .insert 6 "y"⟩, ⟨2, .replace ⟨8, 9⟩ "x"⟩] := by cbv
  obtain ⟨-, hrest, hagain⟩ := merge_without_dropped h
  have hless := hrest rest (by decide) (by rw [hkept]; decide)
  rw [hkept] at hless
  exact ⟨h, hless, hagain⟩

end EditSet

end ScriptTidy
