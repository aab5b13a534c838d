import ScriptTidy.Proofs.Edit.Repeats

/-!
# The order in which edits are proposed

Only for insertions at one offset, and for replacements of one empty span, does the outcome of merging depend on the
order of the proposal: these are made in this order. All other edits may be proposed in any order
(`merge_of_reorders`), since those that are alike are equal, or in conflict, or dominated.
-/

namespace ScriptTidy

namespace Edit

/-- An insertion at `offset`. -/
def insertsAt (offset : Nat) : Edit → Bool
  | insert o _ => o = offset
  | _ => false

/-- A replacement of the empty span at `offset`. -/
def replacesAt (offset : Nat) : Edit → Bool
  | replace s _ => s = .point offset
  | _ => false

private theorem isLike_insert (offset : Nat) (text : String) : (insert offset text).isLike = insertsAt offset := by
  funext e
  cases e with
  | delete s => simp [isLike, insertsAt, rank]
  | replace s t => simp [isLike, insertsAt, rank]
  | insert o t => simp [isLike, insertsAt, rank, Span.point, eq_comm]

private theorem isLike_replace_point (offset : Nat) (text : String) :
    (replace (.point offset) text).isLike = replacesAt offset := by
  funext e
  cases e with
  | delete s => simp [isLike, replacesAt, rank]
  | replace s t => simp [isLike, replacesAt, rank, eq_comm]
  | insert o t => simp [isLike, replacesAt, rank]

/-- Whether an edit is dominated depends on what the list holds, not on its order. -/
private theorem isDominated_congr {edits edits' : List Edit} (h : ∀ e, e ∈ edits ↔ e ∈ edits') (e : Edit) :
    e.IsDominated edits ↔ e.IsDominated edits' := by
  simp only [IsDominated, h]

theorem ConflictIn.congr {edits edits' : List Edit} (h : ∀ e, e ∈ edits ↔ e ∈ edits') {a b : Edit}
    (hpair : ConflictIn edits a b) : ConflictIn edits' a b :=
  ⟨hpair.ne, (isDominated_congr h a).not.1 hpair.first_free, (isDominated_congr h b).not.1 hpair.second_free,
    hpair.clashes⟩

end Edit

namespace EditSet

/-- The lists hold the same edits. Insertions at one offset, and replacements of one empty span, come in one order. -/
structure Reorders (edits edits' : List Edit) : Prop where
  perm : edits.Perm edits'
  inserts : ∀ offset, edits.filter (·.insertsAt offset) = edits'.filter (·.insertsAt offset)
  replaces : ∀ offset, edits.filter (·.replacesAt offset) = edits'.filter (·.replacesAt offset)

theorem Reorders.symm {edits edits' : List Edit} (h : Reorders edits edits') : Reorders edits' edits :=
  ⟨h.perm.symm, fun offset => (h.inserts offset).symm, fun offset => (h.replaces offset).symm⟩

variable {edits edits' : List Edit} {set : EditSet}

private theorem filter_isLike_undominated (edits : List Edit) (e : Edit) :
    (undominated edits (agenda edits)).filter e.isLike =
      (edits.filter e.isLike).filter fun f => ¬ f.IsDominated edits := by
  rw [undominated, List.filter_comm, filter_isLike_agenda]

/-- Where merging goes well, edits that are alike, take out bytes and are not dominated are equal. -/
private theorem eq_of_isLike_of_merge (h : merge edits = .ok set) {a b : Edit} (ha : a ∈ edits) (hb : b ∈ edits)
    (hlike : a.isLike b = true) (hinsert : a.isInsert = false) (hbyte : a.start < a.stop)
    (hfree : ¬ a.IsDominated edits) (hfree' : ¬ b.IsDominated edits) : a = b := by
  by_contra hne
  have hclash : a.Clashes b := by
    refine .inr (.inr ⟨Edit.start_eq_of_isLike hlike, hinsert, ?_, .inl (Edit.isEmpty_span_eq_false.2 hbyte)⟩)
    rw [← Edit.isInsert_eq_of_isLike hlike, hinsert]
  exact not_conflictIn_of_merge h ha hb ⟨hne, hfree, hfree', hclash⟩

private theorem eq_of_perm_of_forall_eq {l m : List Edit} (hperm : l.Perm m) (h : ∀ a ∈ l, ∀ b ∈ l, a = b) :
    l = m := by
  cases l with
  | nil => exact hperm.nil_eq
  | cons a l =>
    have hl : a :: l = List.replicate (l.length + 1) a :=
      List.eq_replicate_iff.2 ⟨rfl, fun b hb => h b hb a (List.mem_cons_self ..)⟩
    rw [hl] at hperm ⊢
    exact (List.perm_replicate.1 hperm.symm).symm

/-- The undominated edits of the two lists come in one order. -/
private theorem undominated_of_reorders (hvalid : ∀ e ∈ edits, e.start ≤ e.stop) (hr : Reorders edits edits')
    (h : merge edits = .ok set) : undominated edits (agenda edits) = undominated edits' (agenda edits') := by
  have hfree : ∀ e : Edit, e.IsDominated edits ↔ e.IsDominated edits' :=
    Edit.isDominated_congr fun _ => hr.perm.mem_iff
  have hsorted : ∀ es, (undominated es (agenda es)).Pairwise fun e f => e.comesBefore f = true := fun es =>
    (map_edit_agenda_sorted es).filter _
  refine Edit.eq_of_sorted (hsorted edits) (hsorted edits') fun e => ?_
  rw [filter_isLike_undominated, filter_isLike_undominated]
  simp only [← hfree]
  have hperm := (hr.perm.filter e.isLike).filter fun f => ¬ f.IsDominated edits
  -- a class keeps its order, or it has no two different edits
  cases e with
  | insert offset text =>
    rw [Edit.isLike_insert]
    exact congrArg _ (hr.inserts offset)
  | delete s =>
    refine eq_of_perm_of_forall_eq hperm fun a ha b hb => ?_
    have hclass : ∀ f ∈ edits.filter (Edit.delete s).isLike, Edit.delete s = f := fun f hf =>
      Edit.eq_of_isLike (List.mem_filter.1 hf).2 rfl
    rw [← hclass a (List.mem_of_mem_filter ha), ← hclass b (List.mem_of_mem_filter hb)]
  | replace s text =>
    rcases Nat.lt_trichotomy s.start s.stop with hlt | heq | hgt
    · refine eq_of_perm_of_forall_eq hperm fun a ha b hb => ?_
      obtain ⟨ha, hfreea⟩ := List.mem_filter.1 ha
      obtain ⟨hb, hfreeb⟩ := List.mem_filter.1 hb
      obtain ⟨ha, hlikea⟩ := List.mem_filter.1 ha
      obtain ⟨hb, hlikeb⟩ := List.mem_filter.1 hb
      refine eq_of_isLike_of_merge h ha hb ?_ ?_ ?_ (by simpa using hfreea) (by simpa using hfreeb)
      · rw [← Edit.isLike_congr hlikea]
        exact hlikeb
      · rw [← Edit.isInsert_eq_of_isLike hlikea]
        rfl
      · rw [← Edit.start_eq_of_isLike hlikea, ← Edit.stop_eq_of_isLike hlikea]
        exact hlt
    · have hs : s = .point s.start := by
        cases s
        simpa [Span.point] using heq.symm
      rw [hs, Edit.isLike_replace_point]
      exact congrArg _ (hr.replaces s.start)
    · -- there are no such edits
      refine eq_of_perm_of_forall_eq hperm fun a ha b hb => ?_
      obtain ⟨ha, hlike⟩ := List.mem_filter.1 (List.mem_of_mem_filter ha)
      have hle := hvalid a ha
      rw [← Edit.start_eq_of_isLike hlike, ← Edit.stop_eq_of_isLike hlike] at hle
      exact absurd hgt (Nat.not_lt.2 hle)

private theorem merge_of_reorders_ok (hvalid : ∀ e ∈ edits, e.start ≤ e.stop) (hr : Reorders edits edits')
    (h : merge edits = .ok set) : merge edits' = .ok set := by
  have hvalid' : ∀ e ∈ edits', e.start ≤ e.stop := fun e he => hvalid e (hr.perm.mem_iff.2 he)
  cases hm : merge edits' with
  | error c =>
    obtain ⟨hfirst, hsecond, hpair, -⟩ := conflict_spec hvalid' hm
    have hmem : ∀ {p : PlacedEdit}, p ∈ agenda edits' → p.edit ∈ edits := fun hp =>
      hr.perm.mem_iff.2 (mem_of_mem_agenda hp)
    exact absurd (hpair.congr fun _ => hr.perm.mem_iff.symm) (not_conflictIn_of_merge h (hmem hfirst) (hmem hsecond))
  | ok set' =>
    have hedits : set.edits = set'.edits := by
      rw [edits_of_merge hvalid h, edits_of_merge hvalid' hm, undominated_of_reorders hvalid hr h]
    have hcount := length_add_superseded_of_merge h
    have hcount' := length_add_superseded_of_merge hm
    have hdropped : set.superseded = set'.superseded := by
      rw [hedits, hr.perm.length_eq] at hcount
      omega
    cases set
    cases set'
    simp_all

/-- Merging does not depend on the order of the proposal, insertions at one offset and replacements of one empty span
apart: it goes well for both orders, with the same edits and the same number of dropped ones, or for none. Insertions
at one offset are merged in the order of the proposal. -/
theorem merge_of_reorders (hvalid : ∀ e ∈ edits, e.start ≤ e.stop) (hr : Reorders edits edits') :
    (∀ set, merge edits = .ok set ↔ merge edits' = .ok set) ∧
      ∀ set, merge edits = .ok set → ∀ offset,
        (set.edits.filter (·.insertsAt offset)).Sublist (edits.filter (·.insertsAt offset)) := by
  refine ⟨fun set => ⟨merge_of_reorders_ok hvalid hr, merge_of_reorders_ok ?_ hr.symm⟩, fun set h offset => ?_⟩
  · exact fun e he => hvalid e (hr.perm.mem_iff.2 he)
  · have hsub : set.edits.Sublist ((agenda edits).map (·.edit)) := by
      rw [edits_of_merge hvalid h]
      exact (List.destutter_sublist _ _).trans List.filter_sublist
    have hclass := hsub.filter (Edit.insert offset "").isLike
    rwa [filter_isLike_agenda, Edit.isLike_insert] at hclass

theorem merge_of_reorders_interleaved :
    let edits : List Edit := [.insert 2 "a", .delete ⟨0, 2⟩, .insert 2 "b", .replace ⟨1, 2⟩ "y", .replace ⟨5, 6⟩ "x",
      .replace ⟨8, 8⟩ "p", .replace ⟨1, 2⟩ "z", .replace ⟨8, 8⟩ "q", .replace ⟨5, 6⟩ "x"]
    let edits' : List Edit := [.replace ⟨8, 8⟩ "p", .replace ⟨1, 2⟩ "z", .replace ⟨5, 6⟩ "x", .insert 2 "a",
      .replace ⟨5, 6⟩ "x", .replace ⟨8, 8⟩ "q", .replace ⟨1, 2⟩ "y", .insert 2 "b", .delete ⟨0, 2⟩]
    (∀ e ∈ edits, e.start ≤ e.stop) ∧ Reorders edits edits' ∧
      merge edits' = .ok ⟨[.delete ⟨0, 2⟩, .insert 2 "a", .insert 2 "b", .replace ⟨5, 6⟩ "x", .replace ⟨8, 8⟩ "p",
        .replace ⟨8, 8⟩ "q"], 3⟩ := by
  intro edits edits'
  have hvalid : ∀ e ∈ edits, e.start ≤ e.stop := by decide
  have hr : Reorders edits edits' := by
    refine ⟨by decide, fun offset => ?_, fun offset => ?_⟩
    · by_cases h : 2 = offset <;> simp [edits, edits', Edit.insertsAt, h]
    · rcases eq_or_ne 8 offset with rfl | h
      · decide
      · have hbytes : ∀ k, ¬ (k = offset ∧ k + 1 = offset) := by omega
        simp [edits, edits', Edit.replacesAt, Span.point, h, hbytes 1, hbytes 5]
  have h : merge edits = .ok ⟨[.delete ⟨0, 2⟩, .insert 2 "a", .insert 2 "b", .replace ⟨5, 6⟩ "x", .replace ⟨8, 8⟩ "p",
      .replace ⟨8, 8⟩ "q"], 3⟩ := by cbv
  exact ⟨hvalid, hr, ((merge_of_reorders hvalid hr).1 _).1 h⟩

end EditSet

end ScriptTidy
