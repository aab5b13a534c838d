import Mathlib.Data.List.Permutation
import ScriptTidy.Proofs.Edit.Sweep

/-!
# Merging edits

What `EditSet.merge` makes of a list of edits, said without the sweep.

* `merge_accounts_for_every_edit`: the merged edits stay apart, they are edits of the list at different places of it,
  and every other edit of the list is taken in by a merged deletion or equal to a merged edit.
* `merge_fails_iff_conflict`: for edits whose ends stand in order, merging fails exactly when two edits clash that no
  deletion takes in, and it then names such a pair.
-/

namespace ScriptTidy

namespace EditSet

/-! ### The edits in the order of the sweep -/

/-- The proposed edits as the sweep meets them. -/
def agenda (edits : List Edit) : List PlacedEdit := (PlacedEdit.number 0 edits).mergeSort PlacedEdit.comesBefore

theorem agenda_perm (edits : List Edit) : (agenda edits).Perm (PlacedEdit.number 0 edits) :=
  List.mergeSort_perm _ _

theorem mem_agenda {edits : List Edit} {p : PlacedEdit} : p ∈ agenda edits ↔ edits[p.index]? = some p.edit := by
  rw [(agenda_perm edits).mem_iff, PlacedEdit.mem_number]
  simp

theorem mem_of_mem_agenda {edits : List Edit} {p : PlacedEdit} (h : p ∈ agenda edits) : p.edit ∈ edits :=
  List.mem_of_getElem? (mem_agenda.1 h)

private theorem length_agenda (edits : List Edit) : (agenda edits).length = edits.length := by
  rw [(agenda_perm edits).length_eq, PlacedEdit.length_number]

theorem agenda_sorted (edits : List Edit) : (agenda edits).Pairwise fun a b => a.comesBefore b = true :=
  List.pairwise_mergeSort PlacedEdit.comesBefore_trans PlacedEdit.comesBefore_total _

theorem agenda_index_nodup (edits : List Edit) : ((agenda edits).map (·.index)).Nodup := by
  rw [((agenda_perm edits).map _).nodup_iff, PlacedEdit.map_index_number]
  exact List.nodup_range'

theorem merge_eq_ok {edits : List Edit} {set : EditSet} (h : merge edits = .ok set) :
    ∃ s, Sweep.empty.run (agenda edits) = .ok s ∧ set = ⟨s.kept.reverse.map (·.edit), s.superseded⟩ := by
  unfold merge at h
  split at h
  · cases h
  · rename_i s hs
    cases h
    exact ⟨s, hs, rfl⟩

theorem merge_of_run {edits : List Edit} {s : Sweep} (h : Sweep.empty.run (agenda edits) = .ok s) :
    merge edits = .ok ⟨s.kept.reverse.map (·.edit), s.superseded⟩ := by
  unfold agenda at h
  rw [merge, h]

private theorem merge_eq_error {edits : List Edit} {c : Conflict} (h : merge edits = .error c) :
    Sweep.empty.run (agenda edits) = .error c := by
  unfold merge at h
  split at h
  · rename_i c' hc
    cases h
    exact hc
  · cases h

/-- The sweep over the whole list, when it goes well. -/
theorem tracks_of_merge {edits : List Edit} {s : Sweep} (h : Sweep.empty.run (agenda edits) = .ok s) :
    s.Tracks (agenda edits) :=
  (Sweep.run_spec (fun _ _ _ _ _ _ ht hs => ht.step hs) _ rfl Sweep.Tracks.empty).1 s h

/-- The kept edits in the order of the text: each starts no earlier than those in front, which have stopped by then. -/
theorem kept_ordered {s : Sweep} {seen : List PlacedEdit} (ht : s.Tracks seen)
    (hord : seen.Pairwise fun a b => a.comesBefore b = true) :
    s.kept.reverse.Pairwise fun a b => a.comesBefore b = true ∧ a.edit.stop ≤ b.edit.start :=
  (hord.sublist ht.sublist).and (List.pairwise_reverse.2 ht.apart)

/-- Merged edits come in the order of the text, and none reaches into a later one. -/
theorem merge_pairwise {edits : List Edit} {set : EditSet} (h : merge edits = .ok set) :
    set.edits.Pairwise fun a b => a.start ≤ b.start ∧ a.stop ≤ b.start := by
  obtain ⟨s, hs, rfl⟩ := merge_eq_ok h
  refine List.pairwise_map.2 ((kept_ordered (tracks_of_merge hs) (agenda_sorted edits)).imp ?_)
  rintro a b ⟨hab, hstop⟩
  exact ⟨PlacedEdit.start_le_of_comesBefore hab, hstop⟩

/-- An edit of the list is merged or counted as dropped. -/
theorem length_add_superseded_of_merge {edits : List Edit} {set : EditSet} (h : merge edits = .ok set) :
    set.edits.length + set.superseded = edits.length := by
  obtain ⟨s, hs, rfl⟩ := merge_eq_ok h
  have hcount := (tracks_of_merge hs).count
  rw [length_agenda] at hcount
  simpa using hcount

/-- A merged set holds edits of the list, from places that are all different, in the order of the text and apart from
each other. The edits at the other places were dropped, and each of them is taken in by a deletion of the set or equal
to an edit of the set. -/
theorem merge_accounts_for_every_edit {edits : List Edit} {set : EditSet} (h : merge edits = .ok set) :
    set.edits.Pairwise (fun a b => a.start ≤ b.start ∧ a.stop ≤ b.start) ∧
      ∃ places : List Nat, places.Nodup ∧ places.map (edits[·]?) = set.edits.map some ∧
        set.size + set.superseded = edits.length ∧
        ∀ i e, edits[i]? = some e → i ∉ places →
          (∃ d ∈ set.edits, d.isDelete = true ∧ d.supersedes e = true) ∨ e ∈ set.edits := by
  refine ⟨merge_pairwise h, ?_⟩
  obtain ⟨s, hs, rfl⟩ := merge_eq_ok h
  have ht := tracks_of_merge hs
  refine ⟨s.kept.reverse.map (·.index), ?_, ?_, ?_, ?_⟩
  · exact (agenda_index_nodup edits).sublist (ht.sublist.map _)
  · rw [List.map_map, List.map_map]
    apply List.map_congr_left
    intro p hp
    exact mem_agenda.1 (ht.sublist.subset hp)
  · have hc := ht.count
    rw [length_agenda] at hc
    simpa [size] using hc
  · intro i e hi hplace
    have hmem : (⟨i, e⟩ : PlacedEdit) ∈ agenda edits := mem_agenda.2 hi
    rcases ht.accounted _ hmem with hk | ⟨q, hq, hqe⟩
    · exact absurd (List.mem_map.2 ⟨_, List.mem_reverse.2 hk, rfl⟩) hplace
    · have hq' : q.edit ∈ s.kept.reverse.map (·.edit) := List.mem_map_of_mem (List.mem_reverse.2 hq)
      rcases hqe with hqe | hqe
      · exact .inl ⟨q.edit, hq', Edit.isDelete_of_supersedes hqe, hqe⟩
      · replace hqe : q.edit = e := hqe
        exact .inr (hqe ▸ hq')

theorem merge_accounts_for_nested_and_repeated :
    merge [.delete ⟨0, 6⟩, .insert 3 "!", .replace ⟨8, 9⟩ "x", .replace ⟨8, 9⟩ "x", .insert 6 "y"] =
        .ok ⟨[.delete ⟨0, 6⟩, .insert 6 "y", .replace ⟨8, 9⟩ "x"], 2⟩ ∧
      ∃ places : List Nat, places.Nodup ∧
        places.map ([Edit.delete ⟨0, 6⟩, .insert 3 "!", .replace ⟨8, 9⟩ "x", .replace ⟨8, 9⟩ "x", .insert 6 "y"][·]?) =
          [some (.delete ⟨0, 6⟩), some (.insert 6 "y"), some (.replace ⟨8, 9⟩ "x")] := by
  have h : merge [.delete ⟨0, 6⟩, .insert 3 "!", .replace ⟨8, 9⟩ "x", .replace ⟨8, 9⟩ "x", .insert 6 "y"] =
      .ok ⟨[.delete ⟨0, 6⟩, .insert 6 "y", .replace ⟨8, 9⟩ "x"], 2⟩ := by cbv
  obtain ⟨-, places, hnodup, hplaces, -⟩ := merge_accounts_for_every_edit h
  exact ⟨h, places, hnodup, hplaces⟩

end EditSet

/-! ### When merging fails -/

namespace Edit

/-- A deletion of the list, other than `e` itself, takes in `e`. -/
def IsDominated (edits : List Edit) (e : Edit) : Prop := ∃ d ∈ edits, d ≠ e ∧ d.supersedes e = true

/-- One of the edits starts strictly inside the other, or both replace text from one start on, not both of them
nothing. -/
def Clashes (a b : Edit) : Prop :=
  (a.start < b.start ∧ b.start < a.stop) ∨ (b.start < a.start ∧ a.start < b.stop) ∨
    (a.start = b.start ∧ a.isInsert = false ∧ b.isInsert = false ∧
      (a.span.isEmpty = false ∨ b.span.isEmpty = false))

instance (edits : List Edit) (e : Edit) : Decidable (IsDominated edits e) :=
  inferInstanceAs (Decidable (∃ d ∈ edits, d ≠ e ∧ d.supersedes e = true))

instance (a b : Edit) : Decidable (Clashes a b) :=
  inferInstanceAs (Decidable ((a.start < b.start ∧ b.start < a.stop) ∨ (b.start < a.start ∧ a.start < b.stop) ∨
    (a.start = b.start ∧ a.isInsert = false ∧ b.isInsert = false ∧
      (a.span.isEmpty = false ∨ b.span.isEmpty = false))))

/-- Two unequal edits clash, and no deletion of the list dominates either. -/
structure ConflictIn (edits : List Edit) (a b : Edit) : Prop where
  ne : a ≠ b
  first_free : ¬ a.IsDominated edits
  second_free : ¬ b.IsDominated edits
  clashes : a.Clashes b

theorem Clashes.symm {a b : Edit} (h : a.Clashes b) : b.Clashes a := by
  rcases h with h | h | ⟨hs, ha, hb, he⟩
  · exact .inr (.inl h)
  · exact .inl h
  · exact .inr (.inr ⟨hs.symm, hb, ha, he.symm⟩)

theorem ConflictIn.symm {edits : List Edit} {a b : Edit} (h : ConflictIn edits a b) : ConflictIn edits b a :=
  ⟨h.ne.symm, h.second_free, h.first_free, h.clashes.symm⟩

theorem isEmpty_span_eq_false {e : Edit} : e.span.isEmpty = false ↔ e.start < e.stop := by
  simp [Span.isEmpty, start, stop]

end Edit

namespace EditSet

/-- Two edits do not clash when the first in the order of the sweep has stopped where the other starts. -/
private theorem not_clashes_of_apart {a b : PlacedEdit} (hab : a.comesBefore b = true)
    (hstop : a.edit.stop ≤ b.edit.start) : ¬ a.edit.Clashes b.edit := by
  have hstart := PlacedEdit.start_le_of_comesBefore hab
  rintro (h | h | ⟨hs, hai, hbi, he⟩)
  · omega
  · omega
  · -- the second stops no further than the first, so both are empty
    have hstop' := (PlacedEdit.stop_le_of_comesBefore hab hs hai).2
    rw [Edit.isEmpty_span_eq_false, Edit.isEmpty_span_eq_false] at he
    omega

/-- An edit that starts inside an earlier one clashes with it. -/
private theorem clashes_of_inside {a b : PlacedEdit} (hab : a.comesBefore b = true)
    (hinside : b.edit.start < a.edit.stop) : a.edit.Clashes b.edit := by
  rcases Nat.lt_or_ge a.edit.start b.edit.start with hlt | hge
  · exact .inl ⟨hlt, hinside⟩
  · have hs : a.edit.start = b.edit.start := Nat.le_antisymm (PlacedEdit.start_le_of_comesBefore hab) hge
    have ha : a.edit.isInsert = false := by
      rw [Bool.eq_false_iff]
      intro hi
      have := Edit.start_eq_stop_of_isInsert hi
      omega
    refine .inr (.inr ⟨hs, ha, (PlacedEdit.stop_le_of_comesBefore hab hs ha).1, .inl ?_⟩)
    rw [Edit.isEmpty_span_eq_false]
    omega

/-- An edit that no deletion dominates is among the kept ones, or an equal one is. -/
private theorem mem_kept_of_not_dominated {edits : List Edit} {s : Sweep} (ht : s.Tracks (agenda edits)) {e : Edit}
    (he : e ∈ edits) (hdom : ¬ e.IsDominated edits) : ∃ p ∈ s.kept, p.edit = e := by
  obtain ⟨i, hi⟩ := List.getElem?_of_mem he
  rcases ht.accounted ⟨i, e⟩ (mem_agenda.2 hi) with hk | ⟨q, hq, hqe | hqe⟩
  · exact ⟨_, hk, rfl⟩
  · refine ⟨q, hq, ?_⟩
    by_cases heq : q.edit = e
    · exact heq
    · exact absurd ⟨q.edit, mem_of_mem_agenda (ht.mem_seen hq), heq, hqe⟩ hdom
  · exact ⟨q, hq, hqe⟩

/-- Unequal kept edits do not clash. -/
private theorem not_clashes_of_kept {edits : List Edit} {s : Sweep} (ht : s.Tracks (agenda edits))
    {p q : PlacedEdit} (hp : p ∈ s.kept) (hq : q ∈ s.kept) (hne : p.edit ≠ q.edit) :
    ¬ p.edit.Clashes q.edit := by
  have hord : s.kept.reverse.Pairwise fun a b => ¬ a.edit.Clashes b.edit :=
    (kept_ordered ht (agenda_sorted edits)).imp fun h => not_clashes_of_apart h.1 h.2
  have hpair : s.kept.reverse.Pairwise fun a b => a.edit ≠ b.edit → ¬ a.edit.Clashes b.edit :=
    hord.imp (by intro a b h _; exact h)
  have hflip : s.kept.reverse.Pairwise fun a b => b.edit ≠ a.edit → ¬ b.edit.Clashes a.edit :=
    hord.imp fun h _ hc => h hc.symm
  exact List.Pairwise.forall_of_forall_of_flip (fun _ _ h => absurd rfl h) hpair hflip
    (List.mem_reverse.2 hp) (List.mem_reverse.2 hq) hne

private theorem not_dominated {edits : List Edit} {e : Edit}
    (h : ∀ d ∈ agenda edits, d.edit.supersedes e = true → d.edit = e) : ¬ e.IsDominated edits := by
  rintro ⟨d, hd, hne, hsup⟩
  obtain ⟨i, hi⟩ := List.getElem?_of_mem hd
  exact hne (h ⟨i, d⟩ (mem_agenda.2 hi) hsup)

/-- An edit that the sweep does not drop is not dominated: not by a deletion it has seen, and not by one to come. -/
theorem not_isDominated_of_drops {edits : List Edit} (hvalid : ∀ e ∈ edits, e.start ≤ e.stop) {s : Sweep}
    {seen rest : List PlacedEdit} {p : PlacedEdit} (hall : agenda edits = seen ++ p :: rest) (ht : s.Tracks seen)
    (hdrops : s.drops p.edit = false) : ¬ p.edit.IsDominated edits := by
  obtain ⟨-, hback, hcross⟩ := List.pairwise_append.1 (hall ▸ agenda_sorted edits)
  have hord : ∀ q ∈ seen, q.comesBefore p = true := fun q hq => hcross q hq p (by simp)
  have hseen : ∀ q ∈ seen, q.edit.start ≤ q.edit.stop := fun q hq =>
    hvalid _ (mem_of_mem_agenda (hall ▸ List.mem_append_left _ hq))
  apply not_dominated
  intro d hd hsup
  rw [hall] at hd
  rcases List.mem_append.1 hd with hd | hd
  · rw [ht.drops_of_supersedes hord hseen hd hsup] at hdrops
    cases hdrops
  · rcases List.mem_cons.1 hd with rfl | hd
    · rfl
    · exact Edit.eq_of_supersedes_earlier (List.rel_of_pairwise_cons hback hd) hsup

/-- What the sweep knows when it meets an edit that it cannot keep. -/
private theorem sweep_at_conflict {edits : List Edit} (hvalid : ∀ e ∈ edits, e.start ≤ e.stop) {c : Conflict}
    (h : merge edits = .error c) :
    ∃ (s : Sweep) (seen rest : List PlacedEdit), agenda edits = seen ++ c.second :: rest ∧
      s.Tracks seen ∧ s.Spares seen ∧ s.step c.second = .error c := by
  have hstep : ∀ (s : Sweep) seen p rest s', agenda edits = seen ++ p :: rest → s.Tracks seen ∧ s.Spares seen →
      s.step p = .ok s' → s'.Tracks (seen ++ [p]) ∧ s'.Spares (seen ++ [p]) := by
    rintro s seen p rest s' hall ⟨ht, hsp⟩ hs
    have hord : ∀ q ∈ seen, q.comesBefore p = true := fun q hq =>
      (List.pairwise_append.1 (hall ▸ agenda_sorted edits)).2.2 q hq p (by simp)
    have hseen : ∀ q ∈ seen, q.edit.start ≤ q.edit.stop := fun q hq =>
      hvalid _ (mem_of_mem_agenda (hall ▸ List.mem_append_left _ hq))
    exact ⟨ht.step hs, hsp.step ht hord hseen hs⟩
  obtain ⟨s, seen, p, rest, hall, ⟨ht, hsp⟩, hs⟩ :=
    (Sweep.run_spec hstep _ rfl ⟨.empty, by simp [Sweep.Spares, Sweep.empty]⟩).2 c (merge_eq_error h)
  obtain rfl := (Sweep.step_eq_error hs).2.1
  exact ⟨s, seen, rest, hall, ht, hsp, hs⟩

/-- The edit that reaches furthest is the latest kept one, when the next edit starts inside of it. -/
private theorem head?_of_inside {s : Sweep} {seen : List PlacedEdit} (ht : s.Tracks seen) {p q : PlacedEdit}
    (hord : ∀ r ∈ seen, r.comesBefore p = true) (hq : q ∈ s.kept) (hinside : p.edit.start < q.edit.stop) :
    s.kept.head? = some q := by
  cases hk : s.kept with
  | nil => simp [hk] at hq
  | cons r rs =>
    rw [hk] at hq
    rcases List.mem_cons.1 hq with rfl | hq
    · rfl
    · have hapart := ht.apart
      rw [hk] at hapart
      have hqr := List.rel_of_pairwise_cons hapart hq
      have hrp := PlacedEdit.start_le_of_comesBefore (hord r (ht.mem_seen (by simp [hk])))
      omega

/-- A conflict names two edits of the list that are in conflict, and the second starts inside the first. -/
theorem conflict_spec {edits : List Edit} (hvalid : ∀ e ∈ edits, e.start ≤ e.stop) {c : Conflict}
    (h : merge edits = .error c) :
    c.first ∈ agenda edits ∧ c.second ∈ agenda edits ∧ Edit.ConflictIn edits c.first.edit c.second.edit ∧
      c.first.edit.start ≤ c.second.edit.start ∧ c.second.edit.start < c.first.edit.stop := by
  obtain ⟨s, seen, rest, hall, ht, hsp, hs⟩ := sweep_at_conflict hvalid h
  obtain ⟨hdrops, -, hf, hinside⟩ := Sweep.step_eq_error hs
  have hsorted := hall ▸ agenda_sorted edits
  obtain ⟨-, -, hcross⟩ := List.pairwise_append.1 hsorted
  have hord : ∀ q ∈ seen, q.comesBefore c.second = true := fun q hq => hcross q hq _ (by simp)
  have hkept : c.first ∈ s.kept := ht.furthest_mem _ hf
  have hfirst : c.first ∈ seen := ht.mem_seen hkept
  refine ⟨?_, ?_, ⟨?_, ?_, ?_, clashes_of_inside (hord _ hfirst) hinside⟩,
    PlacedEdit.start_le_of_comesBefore (hord _ hfirst), hinside⟩
  · exact hall ▸ List.mem_append_left _ hfirst
  · exact hall ▸ List.mem_append_right _ (by simp)
  · intro heq
    have hd := Sweep.drops_iff.2 (.inr ⟨c.first, head?_of_inside ht hord hkept hinside, heq⟩)
    rw [hdrops] at hd
    cases hd
  · -- what comes behind the sweep so far does not take in what it has kept
    apply not_dominated
    intro d hd hsup
    rw [hall] at hd
    rcases List.mem_append.1 hd with hd | hd
    · exact hsp _ hkept d hd hsup
    · exact Edit.eq_of_supersedes_earlier (hcross _ hfirst d hd) hsup
  · exact not_isDominated_of_drops hvalid hall ht hdrops

/-- Merging goes well only if no two edits of the list are in conflict. -/
theorem not_conflictIn_of_merge {edits : List Edit} {set : EditSet} (h : merge edits = .ok set) {a b : Edit}
    (ha : a ∈ edits) (hb : b ∈ edits) : ¬ Edit.ConflictIn edits a b := by
  intro hpair
  obtain ⟨s, hs, -⟩ := merge_eq_ok h
  have ht := tracks_of_merge hs
  obtain ⟨p, hp, rfl⟩ := mem_kept_of_not_dominated ht ha hpair.first_free
  obtain ⟨q, hq, rfl⟩ := mem_kept_of_not_dominated ht hb hpair.second_free
  exact not_clashes_of_kept ht hp hq hpair.ne hpair.clashes

/-- For edits whose ends stand in order, merging fails exactly when two edits of the list are in conflict: unequal,
clashing, and dominated by no deletion. The conflict it then reports names the places of such a pair, and the second
edit starts inside the first. -/
theorem merge_fails_iff_conflict (edits : List Edit) (hvalid : ∀ e ∈ edits, e.start ≤ e.stop) :
    ((∃ c, merge edits = .error c) ↔ ∃ a ∈ edits, ∃ b ∈ edits, Edit.ConflictIn edits a b) ∧
      ∀ c, merge edits = .error c →
        edits[c.first.index]? = some c.first.edit ∧ edits[c.second.index]? = some c.second.edit ∧
          Edit.ConflictIn edits c.first.edit c.second.edit ∧
          c.first.edit.start ≤ c.second.edit.start ∧ c.second.edit.start < c.first.edit.stop := by
  refine ⟨⟨?_, ?_⟩, ?_⟩
  · rintro ⟨c, hc⟩
    obtain ⟨hfirst, hsecond, hpair, -⟩ := conflict_spec hvalid hc
    exact ⟨_, mem_of_mem_agenda hfirst, _, mem_of_mem_agenda hsecond, hpair⟩
  · rintro ⟨a, ha, b, hb, hpair⟩
    cases hm : merge edits with
    | error c => exact ⟨c, rfl⟩
    | ok set => exact absurd hpair (not_conflictIn_of_merge hm ha hb)
  · intro c hc
    obtain ⟨hfirst, hsecond, hrest⟩ := conflict_spec hvalid hc
    exact ⟨mem_agenda.1 hfirst, mem_agenda.1 hsecond, hrest⟩

/-- A replacement that reaches out of a deletion is in conflict with it; a deletion inside that one is not. -/
theorem merge_fails_behind_deletion :
    (∀ e ∈ [Edit.delete ⟨4, 8⟩, .replace ⟨6, 9⟩ "x", .delete ⟨0, 2⟩, .delete ⟨5, 7⟩], e.start ≤ e.stop) ∧
      ∃ c, merge [.delete ⟨4, 8⟩, .replace ⟨6, 9⟩ "x", .delete ⟨0, 2⟩, .delete ⟨5, 7⟩] = .error c := by
  have hvalid : ∀ e ∈ [Edit.delete ⟨4, 8⟩, .replace ⟨6, 9⟩ "x", .delete ⟨0, 2⟩, .delete ⟨5, 7⟩], e.start ≤ e.stop := by
    decide
  refine ⟨hvalid, (merge_fails_iff_conflict _ hvalid).1.2 ?_⟩
  exact ⟨.delete ⟨4, 8⟩, by decide, .replace ⟨6, 9⟩ "x", by decide, by decide, by decide, by decide, by decide⟩

end EditSet

end ScriptTidy
