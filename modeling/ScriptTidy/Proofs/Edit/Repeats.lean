import Mathlib.Data.List.Destutter
import ScriptTidy.Proofs.Edit.Agenda
import ScriptTidy.Proofs.Edit.Deletions

/-!
# Edits that are proposed more than once

Merging, said without the sweep: when it goes well, the merged edits are those that no deletion dominates, in the order
of the sweep, and equal ones that stand side by side in this order count once (`edits_of_merge`).

So equal edits are merged to one, unless there is an edit between them that is not equal to them but alike
(`nodup_merged_iff`). Only insertions and replacements of an empty span can stand so, since other edits that are alike
are equal or in conflict.
-/

namespace ScriptTidy

/-! ### Lists without neighbours that are equal -/

section Destutter

variable {α : Type} {l m : List α}

/-- Between two equal elements there is another one. -/
private theorem exists_between (hl : l.IsChain (· ≠ ·)) {a : α} (h : [a, a].Sublist l) :
    ∃ b, b ≠ a ∧ [a, b, a].Sublist l := by
  induction l with
  | nil => cases h
  | cons c l ih =>
    cases h with
    | cons _ h =>
      obtain ⟨b, hb, hbetween⟩ := ih hl.tail h
      exact ⟨b, hb, hbetween.cons c⟩
    | cons_cons _ h =>
      cases l with
      | nil => cases h
      | cons b l =>
        have hab : a ≠ b := (List.isChain_cons_cons.1 hl).1
        have ha : a ∈ l := ((List.mem_cons.1 (List.singleton_sublist.1 h)).resolve_left hab)
        exact ⟨b, hab.symm, ((List.singleton_sublist.2 ha).cons_cons b).cons_cons a⟩

variable [DecidableEq α]

private theorem destutter'_concat (a b : α) (l : List α) :
    (l ++ [b]).destutter' (· ≠ ·) a =
      if (l.destutter' (· ≠ ·) a).getLast? = some b then l.destutter' (· ≠ ·) a
      else l.destutter' (· ≠ ·) a ++ [b] := by
  induction l generalizing a with
  | nil => by_cases h : a = b <;> simp [h]
  | cons c l ih =>
    rw [List.cons_append]
    by_cases h : a ≠ c
    · have hlast : (a :: l.destutter' (· ≠ ·) c).getLast? = (l.destutter' (· ≠ ·) c).getLast? := by
        rw [List.getLast?_cons, List.getLast?_eq_some_getLast (List.destutter'_ne_nil _ _)]
        rfl
      rw [List.destutter'_cons_pos _ h, List.destutter'_cons_pos _ h, hlast, ih c]
      split <;> rfl
    · rw [List.destutter'_cons_neg _ h, List.destutter'_cons_neg _ h, ih a]

/-- A further element counts unless the last one is equal to it. -/
private theorem destutter_concat (l : List α) (b : α) :
    (l ++ [b]).destutter (· ≠ ·) =
      if (l.destutter (· ≠ ·)).getLast? = some b then l.destutter (· ≠ ·) else l.destutter (· ≠ ·) ++ [b] := by
  cases l with
  | nil => rfl
  | cons a l => exact destutter'_concat a b l

private theorem sublist_destutter' {a : α} (hm : m.Sublist (a :: l)) (hchain : m.IsChain (· ≠ ·)) :
    m.Sublist (l.destutter' (· ≠ ·) a) := by
  induction l generalizing a m with
  | nil => exact hm
  | cons b l ih =>
    by_cases h : a = b
    · subst h
      rw [List.destutter'_cons_neg _ (by simp)]
      refine ih ?_ hchain
      -- `m` has `a` once in a row
      cases hm with
      | cons _ hm => exact hm
      | @cons_cons m' _ _ hm =>
        cases hm with
        | cons _ hm => exact hm.cons_cons a
        | cons_cons _ hm => simp at hchain
    · rw [List.destutter'_cons_pos _ h]
      cases hm with
      | cons _ hm => exact (ih hm hchain).cons a
      | cons_cons _ hm => exact (ih hm hchain.tail).cons_cons a

/-- What has no equal neighbours is left alone. -/
private theorem sublist_destutter (hm : m.Sublist l) (hchain : m.IsChain (· ≠ ·)) :
    m.Sublist (l.destutter (· ≠ ·)) := by
  cases l with
  | nil => exact hm
  | cons a l => exact sublist_destutter' hm hchain

private theorem nodup_destutter_iff : (l.destutter (· ≠ ·)).Nodup ↔ ∀ a b, [a, b, a].Sublist l → a = b := by
  constructor
  · intro h a b hsub
    by_contra hne
    have hnodup := h.sublist (sublist_destutter hsub (by simp [hne, Ne.symm hne]))
    simp at hnodup
  · intro h
    refine List.nodup_iff_sublist.2 fun a hdup => ?_
    obtain ⟨b, hne, hsub⟩ := exists_between (List.isChain_destutter _ l) hdup
    exact hne (h a b (hsub.trans (List.destutter_sublist _ l))).symm

end Destutter

namespace EditSet

/-- Those of the edits seen that no deletion of the whole list dominates. -/
def undominated (edits : List Edit) (seen : List PlacedEdit) : List Edit :=
  (seen.map (·.edit)).filter fun e => ¬ e.IsDominated edits

/-- A sweep holds the undominated edits that it has seen, and of equal neighbours only one. -/
def Sweep.Collapses (s : Sweep) (edits : List Edit) (seen : List PlacedEdit) : Prop :=
  s.kept.reverse.map (·.edit) = (undominated edits seen).destutter (· ≠ ·)

variable {edits : List Edit} {s s' : Sweep} {seen rest : List PlacedEdit} {p : PlacedEdit}

/-- An edit that is dropped though nothing dominates it is equal to the edit that was kept last. -/
private theorem head?_of_drops (hall : agenda edits = seen ++ p :: rest) (ht : s.Tracks seen)
    (hdrops : s.drops p.edit = true) (hfree : ¬ p.edit.IsDominated edits) : ∃ q ∈ s.kept.head?, q.edit = p.edit := by
  obtain ⟨hseen, -, hcross⟩ := List.pairwise_append.1 (hall ▸ agenda_sorted edits)
  rcases Sweep.drops_iff.1 hdrops with ⟨c, hc, hsup⟩ | hhead
  swap
  · exact hhead
  obtain ⟨hdelete, q, hq, rfl⟩ := ht.cover_mem c hc
  have hqp : q.edit = p.edit := by
    by_contra hne
    exact hfree ⟨q.edit, mem_of_mem_agenda (hall ▸ List.mem_append_left _ (ht.mem_seen hq)), hne, hsup⟩
  -- what was kept after this deletion stands between two equal deletions, and so is the same deletion
  cases hk : s.kept with
  | nil => simp [hk] at hq
  | cons r rs =>
    refine ⟨r, rfl, ?_⟩
    rw [hk] at hq
    rcases List.mem_cons.1 hq with rfl | hq
    · exact hqp
    have hqr : q.comesBefore r = true := by
      have hord := List.pairwise_reverse.1 (kept_ordered ht hseen)
      rw [hk] at hord
      exact (List.rel_of_pairwise_cons hord hq).1
    have hrp : r.comesBefore p = true := hcross r (ht.mem_seen (by simp [hk])) p (by simp)
    have hlike := Edit.isLike_of_comesBefore (PlacedEdit.edit_comesBefore hqr)
      (hqp ▸ PlacedEdit.edit_comesBefore hrp)
    rw [← Edit.eq_of_isLike hlike hdelete, hqp]

theorem Sweep.Collapses.step (h : s.Collapses edits seen) (hvalid : ∀ e ∈ edits, e.start ≤ e.stop)
    (hall : agenda edits = seen ++ p :: rest) (ht : s.Tracks seen) (hs : s.step p = .ok s') :
    s'.Collapses edits (seen ++ [p]) := by
  have hlast : ((undominated edits seen).destutter (· ≠ ·)).getLast? = s.kept.head?.map (·.edit) := by
    rw [← h, List.getLast?_map, List.getLast?_reverse]
  have hseen : undominated edits (seen ++ [p]) = undominated edits seen ++ undominated edits [p] := by
    rw [undominated, List.map_append, List.filter_append, undominated, undominated]
  rw [Sweep.Collapses, hseen]
  by_cases hdom : p.edit.IsDominated edits
  · have hnone : undominated edits [p] = [] := by simp [undominated, hdom]
    rw [hnone, List.append_nil, ← h]
    rcases Sweep.step_eq_ok hs with ⟨-, rfl⟩ | ⟨hd, -, -⟩
    · rfl
    · exact absurd hdom (not_isDominated_of_drops hvalid hall ht hd)
  · have hone : undominated edits [p] = [p.edit] := by simp [undominated, hdom]
    rw [hone, destutter_concat, hlast, ← h]
    rcases Sweep.step_eq_ok hs with ⟨hd, rfl⟩ | ⟨hd, -, rfl⟩
    · obtain ⟨q, hq, hqp⟩ := head?_of_drops hall ht hd hdom
      rw [if_pos]
      rw [Option.mem_def.1 hq, Option.map_some, hqp]
    · rw [if_neg, Sweep.keep, List.reverse_cons, List.map_append, List.map_singleton]
      intro hhead
      obtain ⟨q, hq, hqp⟩ := Option.map_eq_some_iff.1 hhead
      rw [Sweep.drops_iff.2 (.inr ⟨q, hq, hqp⟩)] at hd
      cases hd

/-- The merged edits are those that nothing dominates, and equal ones side by side count once. -/
theorem edits_of_merge (hvalid : ∀ e ∈ edits, e.start ≤ e.stop) {set : EditSet} (h : merge edits = .ok set) :
    set.edits = (undominated edits (agenda edits)).destutter (· ≠ ·) := by
  obtain ⟨s, hs, rfl⟩ := merge_eq_ok h
  have hstep : ∀ (s : Sweep) seen p rest s', agenda edits = seen ++ p :: rest →
      s.Tracks seen ∧ s.Collapses edits seen → s.step p = .ok s' →
      s'.Tracks (seen ++ [p]) ∧ s'.Collapses edits (seen ++ [p]) := by
    rintro s seen p rest s' hall ⟨ht, hcollapses⟩ hs
    exact ⟨ht.step hs, hcollapses.step hvalid hall ht hs⟩
  exact ((Sweep.run_spec hstep _ rfl ⟨.empty, rfl⟩).1 s hs).2

/-- What stands between equal edits in the order of the sweep is alike. -/
private theorem isLike_of_between {l : List Edit} (hl : l.Pairwise fun e f => e.comesBefore f = true) {e f : Edit}
    (h : [e, f, e].Sublist l) : e.isLike f = true := by
  have hsorted := hl.sublist h
  simp only [List.pairwise_cons, List.mem_cons, List.not_mem_nil, or_false, forall_eq_or_imp, forall_eq] at hsorted
  exact Edit.isLike_of_comesBefore hsorted.1.1 hsorted.2.1

/-- An edit that is alike to an undominated one is not dominated either, unless the two are equal. -/
private theorem not_isDominated_of_isLike {e f : Edit} (hlike : e.isLike f = true) (h : ¬ e.IsDominated edits) :
    ¬ f.IsDominated edits := by
  rintro ⟨d, hd, hne, hsup⟩
  refine h ⟨d, hd, ?_, ?_⟩
  · rintro rfl
    exact hne (Edit.eq_of_isLike hlike (Edit.isDelete_of_supersedes hsup))
  · rw [Edit.supersedes_eq_of_isLike d hlike]
    exact hsup

/-- Edits that are alike stand in the list as they stand in the order of the sweep. -/
private theorem sublist_agenda_iff {e f : Edit} (hlike : e.isLike f = true) :
    [e, f, e].Sublist ((agenda edits).map (·.edit)) ↔ [e, f, e].Sublist edits := by
  have hclass : [e, f, e].filter e.isLike = [e, f, e] := by simp [hlike]
  constructor
  · intro h
    have hsub := h.filter e.isLike
    rw [hclass, filter_isLike_agenda] at hsub
    exact hsub.trans List.filter_sublist
  · intro h
    have hsub := h.filter e.isLike
    rw [hclass, ← filter_isLike_agenda] at hsub
    exact hsub.trans List.filter_sublist

private theorem sublist_undominated_iff {e f : Edit} :
    [e, f, e].Sublist (undominated edits (agenda edits)) ↔
      [e, f, e].Sublist edits ∧ e.isLike f = true ∧ ¬ e.IsDominated edits := by
  constructor
  · intro h
    have hsub := h.trans List.filter_sublist
    have hlike := isLike_of_between (map_edit_agenda_sorted edits) hsub
    have hfree := (List.mem_filter.1 (h.subset (List.mem_cons_self ..))).2
    exact ⟨(sublist_agenda_iff hlike).1 hsub, hlike, by simpa using hfree⟩
  · rintro ⟨h, hlike, hfree⟩
    have hsub := ((sublist_agenda_iff hlike).2 h).filter fun e => ¬ e.IsDominated edits
    rwa [List.filter_eq_self.2 (by simp [hfree, not_isDominated_of_isLike hlike hfree])] at hsub

/-- Only insertions, and replacements of an empty span, can be merged more than once. A merged set holds some edit more
than once exactly if the list has it, undominated, in front of and behind an edit that is alike and not equal. -/
theorem nodup_merged_iff (hvalid : ∀ e ∈ edits, e.start ≤ e.stop) {set : EditSet} (h : merge edits = .ok set) :
    (∀ e, [e, e].Sublist set.edits → e.isDelete = false ∧ e.start = e.stop) ∧
      (set.edits.Nodup ↔
        ∀ e f, [e, f, e].Sublist edits → e.isLike f = true → ¬ e.IsDominated edits → e = f) := by
  have hedits := edits_of_merge hvalid h
  refine ⟨fun e he => ⟨?_, ?_⟩, ?_⟩
  · rw [hedits] at he
    obtain ⟨f, hne, hbetween⟩ := exists_between (List.isChain_destutter _ _) he
    have hlike := (sublist_undominated_iff.1 (hbetween.trans (List.destutter_sublist _ _))).2.1
    rw [Bool.eq_false_iff]
    intro hdelete
    exact hne (Edit.eq_of_isLike hlike hdelete).symm
  · have hapart := (List.pairwise_iff_forall_sublist.1 (merge_pairwise h) he).2
    exact Nat.le_antisymm (hvalid e (mem_of_mem_merge h (he.subset (List.mem_cons_self ..)))) hapart
  · rw [hedits, nodup_destutter_iff]
    refine forall_congr' fun e => forall_congr' fun f => ?_
    rw [sublist_undominated_iff]
    tauto

/-- Insertions inside a deletion go, however often they are proposed; those at its end stay, also the repeated one. -/
theorem nodup_merged_behind_deletion :
    ¬ ([.delete ⟨0, 6⟩, .insert 6 "c", .insert 6 "d", .insert 6 "c"] : List Edit).Nodup ∧
      (Edit.insert 6 "c").isDelete = false ∧ (Edit.insert 6 "c").start = (Edit.insert 6 "c").stop := by
  have hvalid : ∀ e ∈ [Edit.insert 6 "c", .insert 3 "a", .delete ⟨0, 6⟩, .insert 3 "b", .insert 6 "d", .insert 3 "a",
      .insert 6 "c"], e.start ≤ e.stop := by decide
  have h : merge [.insert 6 "c", .insert 3 "a", .delete ⟨0, 6⟩, .insert 3 "b", .insert 6 "d", .insert 3 "a",
      .insert 6 "c"] = .ok ⟨[.delete ⟨0, 6⟩, .insert 6 "c", .insert 6 "d", .insert 6 "c"], 3⟩ := by cbv
  obtain ⟨hkinds, hnodup⟩ := nodup_merged_iff hvalid h
  refine ⟨fun hn => ?_, hkinds (.insert 6 "c") (by decide)⟩
  exact absurd (hnodup.1 hn (.insert 6 "c") (.insert 6 "d") (by decide) (by decide) (by decide)) (by decide)

/-- An insertion that is proposed twice is made twice, when another one at the same offset stands between. -/
theorem repeated_insertion_stays :
    (∀ e ∈ [Edit.insert 0 "a", .insert 0 "b", .insert 0 "a"], e.start ≤ e.stop) ∧
      merge [.insert 0 "a", .insert 0 "b", .insert 0 "a"] = .ok ⟨[.insert 0 "a", .insert 0 "b", .insert 0 "a"], 0⟩ ∧
      ¬ ([.insert 0 "a", .insert 0 "b", .insert 0 "a"] : List Edit).Nodup :=
  ⟨by decide, by cbv, by decide⟩

end EditSet

end ScriptTidy
