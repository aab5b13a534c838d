import ScriptTidy.Edit.EditSet

/-!
# The sweep over proposed edits

The edits are swept in a total order (`comesBefore_trans`, `comesBefore_total`), so that an edit starts no earlier
than those in front of it. What the sweep knows at any moment is tied to the edits it has seen by `Sweep.Tracks`:
the kept edits stay apart from each other, the furthest of them bounds their stops, and every edit that was dropped
is taken in by a kept one or equal to it. One step keeps this (`Tracks.step`), and `run_spec` carries whatever a step
keeps over a whole run, up to the first conflict.

Two facts about the order make the latest kept deletion speak for all of them:

* an edit is never taken in by one that comes behind it, unless the two are equal (`eq_of_supersedes_earlier`);
* an edit that some earlier deletion takes in is dropped (`Tracks.drops_of_supersedes`).
-/

namespace ScriptTidy

namespace PlacedEdit

/-! ### Numbering -/

theorem length_number (k : Nat) (edits : List Edit) : (number k edits).length = edits.length := by
  induction edits generalizing k with
  | nil => rfl
  | cons e es ih => simp [number, ih]

theorem map_index_number (k : Nat) (edits : List Edit) :
    (number k edits).map (·.index) = List.range' k edits.length := by
  induction edits generalizing k with
  | nil => rfl
  | cons e es ih => simp [number, ih, List.range'_succ]

theorem mem_number {k : Nat} {edits : List Edit} {p : PlacedEdit} :
    p ∈ number k edits ↔ k ≤ p.index ∧ edits[p.index - k]? = some p.edit := by
  induction edits generalizing k with
  | nil => simp [number]
  | cons e es ih =>
    simp only [number, List.mem_cons, ih]
    constructor
    · rintro (rfl | ⟨hk, he⟩)
      · simp
      · refine ⟨by omega, ?_⟩
        rw [show p.index - k = p.index - (k + 1) + 1 by omega, List.getElem?_cons_succ]
        exact he
    · rintro ⟨hk, he⟩
      rcases Nat.eq_or_lt_of_le hk with heq | hlt
      · left
        rw [heq, Nat.sub_self, List.getElem?_cons_zero, Option.some.injEq] at he
        cases p
        simp_all
      · right
        rw [show p.index - k = p.index - (k + 1) + 1 by omega, List.getElem?_cons_succ] at he
        exact ⟨hlt, he⟩

/-! ### The order of the sweep -/

theorem comesBefore_iff {a b : PlacedEdit} :
    a.comesBefore b = true ↔
      a.edit.start < b.edit.start ∨ a.edit.start = b.edit.start ∧
        (a.edit.isInsert = true ∧ b.edit.isInsert = false ∨ a.edit.isInsert = b.edit.isInsert ∧
          (b.edit.stop < a.edit.stop ∨ a.edit.stop = b.edit.stop ∧
            (a.edit.rank < b.edit.rank ∨ a.edit.rank = b.edit.rank ∧ a.index ≤ b.index))) := by
  unfold comesBefore
  by_cases hs : a.edit.start = b.edit.start
  · by_cases hi : a.edit.isInsert = b.edit.isInsert
    · by_cases ht : a.edit.stop = b.edit.stop
      · by_cases hr : a.edit.rank = b.edit.rank <;> simp [hs, hi, ht, hr]
      · simp [hs, hi, ht]
    · cases ha : a.edit.isInsert <;> cases hb : b.edit.isInsert <;> simp_all
  · simp [hs]

theorem comesBefore_trans (a b c : PlacedEdit) (hab : a.comesBefore b = true) (hbc : b.comesBefore c = true) :
    a.comesBefore c = true := by
  rw [comesBefore_iff] at *
  cases ha : a.edit.isInsert <;> cases hb : b.edit.isInsert <;> cases hc : c.edit.isInsert <;>
    simp only [ha, hb, hc] at * <;> simp at * <;> omega

theorem comesBefore_total (a b : PlacedEdit) : (a.comesBefore b || b.comesBefore a) = true := by
  rw [Bool.or_eq_true, comesBefore_iff, comesBefore_iff]
  cases ha : a.edit.isInsert <;> cases hb : b.edit.isInsert <;> simp <;> omega

theorem start_le_of_comesBefore {a b : PlacedEdit} (h : a.comesBefore b = true) :
    a.edit.start ≤ b.edit.start := by
  rw [comesBefore_iff] at h; omega

/-- Of two edits from one start that are no insertions, the one that stops further comes first. -/
theorem stop_le_of_comesBefore {a b : PlacedEdit} (h : a.comesBefore b = true)
    (hs : a.edit.start = b.edit.start) (ha : a.edit.isInsert = false) :
    b.edit.isInsert = false ∧ b.edit.stop ≤ a.edit.stop := by
  rw [comesBefore_iff, ha] at h
  rcases h with h | ⟨-, ⟨h, -⟩ | ⟨hb, h⟩⟩
  · omega
  · cases h
  · exact ⟨hb.symm, by omega⟩

end PlacedEdit

/-! ### What a deletion takes in -/

namespace Edit

theorem supersedes_iff {d e : Edit} :
    d.supersedes e = true ↔ d.isDelete = true ∧
      if e.isInsert then d.start < e.start ∧ e.start < d.stop else d.start ≤ e.start ∧ e.stop ≤ d.stop := by
  unfold supersedes
  cases hi : e.isInsert with
  | true => simp
  | false => simp [Span.covers_iff, start, stop]

theorem start_eq_stop_of_isInsert {e : Edit} (h : e.isInsert = true) : e.start = e.stop := by
  cases e <;> first | rfl | cases h

theorem isInsert_of_isDelete {e : Edit} (h : e.isDelete = true) : e.isInsert = false := by
  cases e <;> first | rfl | cases h

theorem span_eq_iff {e : Edit} {s : Span} : e.span = s ↔ e.start = s.start ∧ e.stop = s.stop := by
  cases h : e.span
  cases s
  simp [start, stop, h]

/-- A deletion is told by where it starts and stops. -/
theorem eq_of_isDelete {d e : Edit} (hd : d.isDelete = true) (he : e.isDelete = true)
    (hs : d.start = e.start) (ht : d.stop = e.stop) : d = e := by
  cases d with
  | delete s =>
    cases e with
    | delete t => exact congrArg delete (span_eq_iff.2 ⟨hs, ht⟩)
    | replace => cases he
    | insert => cases he
  | replace => cases hd
  | insert => cases hd

private theorem supersedes_trans {d e f : Edit} (hde : d.supersedes e = true) (hef : e.supersedes f = true) :
    d.supersedes f = true := by
  rw [supersedes_iff] at *
  obtain ⟨hd, hde⟩ := hde
  obtain ⟨he, hef⟩ := hef
  refine ⟨hd, ?_⟩
  simp only [isInsert_of_isDelete he, Bool.false_eq_true, ↓reduceIte] at hde
  cases hf : f.isInsert with
  | true => simp only [hf, ↓reduceIte] at hef ⊢; omega
  | false => simp only [hf, Bool.false_eq_true, ↓reduceIte] at hef ⊢; omega

/-- From one start, the deletions of the furthest stop come first, so an edit is not taken in by one behind it. -/
theorem eq_of_supersedes_earlier {a b : PlacedEdit} (hab : a.comesBefore b = true)
    (h : b.edit.supersedes a.edit = true) : b.edit = a.edit := by
  rw [supersedes_iff] at h
  obtain ⟨hdel, h⟩ := h
  have hstart := PlacedEdit.start_le_of_comesBefore hab
  cases hi : a.edit.isInsert with
  | true => simp [hi] at h; omega
  | false =>
    simp only [hi, Bool.false_eq_true, ↓reduceIte] at h
    rw [PlacedEdit.comesBefore_iff, hi, isInsert_of_isDelete hdel] at hab
    have hrank : b.edit.rank = 0 := by
      cases hb : b.edit <;> simp_all [isDelete, rank]
    have hdel' : a.edit.isDelete = true := by
      have : a.edit.rank = 0 := by simp at hab; omega
      cases ha : a.edit <;> simp_all [isDelete, rank]
    exact eq_of_isDelete hdel hdel' (by omega) (by simp at hab; omega)

end Edit

namespace EditSet

namespace Sweep

/-! ### One step -/

theorem drops_iff {s : Sweep} {e : Edit} :
    s.drops e = true ↔ (∃ c ∈ s.cover, c.supersedes e = true) ∨ ∃ q ∈ s.kept.head?, q.edit = e := by
  simp [drops, Option.any_eq_true]

/-- A step that goes well drops the edit, or keeps one that starts behind the furthest stop. -/
theorem step_eq_ok {s s' : Sweep} {p : PlacedEdit} (h : s.step p = .ok s') :
    (s.drops p.edit = true ∧ s' = { s with superseded := s.superseded + 1 }) ∨
      (s.drops p.edit = false ∧ (∀ q ∈ s.furthest, q.edit.stop ≤ p.edit.start) ∧ s' = s.keep p) := by
  unfold step at h
  split at h
  · rename_i hd
    cases h
    exact .inl ⟨hd, rfl⟩
  · rename_i hd
    split at h
    · cases h
    · rename_i hc
      cases h
      refine .inr ⟨by simpa using hd, ?_, rfl⟩
      intro q hq
      simp only [clash?, Option.mem_def.1 hq, Option.filter_some] at hc
      simpa using hc

theorem step_of_drops {s : Sweep} {p : PlacedEdit} (h : s.drops p.edit = true) :
    s.step p = .ok { s with superseded := s.superseded + 1 } := by
  rw [step, if_pos h]

/-- An edit that starts behind the furthest stop is kept, unless it is dropped. -/
theorem step_of_apart {s : Sweep} {p : PlacedEdit} (h : s.drops p.edit = false)
    (hfurthest : ∀ q ∈ s.furthest, q.edit.stop ≤ p.edit.start) : s.step p = .ok (s.keep p) := by
  have hclash : s.clash? p.edit = none := by
    rw [clash?, Option.filter_eq_none_iff]
    intro q hq
    simpa using hfurthest q hq
  rw [step, if_neg (by simp [h]), hclash]

/-- A step that fails names the furthest edit, which the new one starts inside of. -/
theorem step_eq_error {s : Sweep} {p : PlacedEdit} {c : Conflict} (h : s.step p = .error c) :
    s.drops p.edit = false ∧ c.second = p ∧ s.furthest = some c.first ∧
      p.edit.start < c.first.edit.stop := by
  unfold step at h
  split at h
  · cases h
  · rename_i hd
    split at h
    · rename_i owner hc
      cases h
      simp only [clash?, Option.filter_eq_some_iff, decide_eq_true_eq] at hc
      exact ⟨by simpa using hd, rfl, hc.1, hc.2⟩
    · cases h

/-! ### What the sweep knows of the edits it has seen -/

/-- The state of a sweep fits the edits that it has seen, in their order. -/
structure Tracks (s : Sweep) (seen : List PlacedEdit) : Prop where
  /-- The kept edits are some of those seen. -/
  sublist : s.kept.reverse.Sublist seen
  /-- Every edit was kept or counted as dropped. -/
  count : s.kept.length + s.superseded = seen.length
  /-- A kept edit stops before any later one starts. -/
  apart : s.kept.Pairwise fun later earlier => earlier.edit.stop ≤ later.edit.start
  /-- The furthest edit is a kept one. -/
  furthest_mem : ∀ q ∈ s.furthest, q ∈ s.kept
  /-- No kept edit stops behind the furthest. -/
  furthest_max : ∀ p ∈ s.kept, ∃ q ∈ s.furthest, p.edit.stop ≤ q.edit.stop
  /-- The cover is a kept deletion. -/
  cover_mem : ∀ c ∈ s.cover, c.isDelete = true ∧ ∃ q ∈ s.kept, q.edit = c
  /-- A kept deletion is the cover or stops before the cover starts. -/
  cover_latest : ∀ q ∈ s.kept, q.edit.isDelete = true → ∃ c ∈ s.cover, c = q.edit ∨ q.edit.stop ≤ c.start
  /-- What was not kept is taken in by, or equal to, a kept edit. -/
  accounted : ∀ p ∈ seen, p ∈ s.kept ∨ ∃ q ∈ s.kept, q.edit.supersedes p.edit = true ∨ q.edit = p.edit

namespace Tracks

theorem empty : Tracks .empty [] := by
  constructor <;> simp [Sweep.empty]

theorem mem_seen {s : Sweep} {seen : List PlacedEdit} (h : s.Tracks seen) {p : PlacedEdit} (hp : p ∈ s.kept) :
    p ∈ seen :=
  h.sublist.subset (List.mem_reverse.2 hp)

/-- All kept edits stop before an edit that starts behind the furthest of them. -/
private theorem stop_le {s : Sweep} {seen : List PlacedEdit} (h : s.Tracks seen) {start : Nat}
    (hf : ∀ q ∈ s.furthest, q.edit.stop ≤ start) {p : PlacedEdit} (hp : p ∈ s.kept) : p.edit.stop ≤ start := by
  obtain ⟨q, hq, hpq⟩ := h.furthest_max p hp
  exact Nat.le_trans hpq (hf q hq)

private theorem drop {s : Sweep} {seen : List PlacedEdit} (h : s.Tracks seen) {p : PlacedEdit}
    (hd : s.drops p.edit = true) : Tracks { s with superseded := s.superseded + 1 } (seen ++ [p]) where
  sublist := h.sublist.trans (List.sublist_append_left ..)
  count := by have := h.count; simp; omega
  apart := h.apart
  furthest_mem := h.furthest_mem
  furthest_max := h.furthest_max
  cover_mem := h.cover_mem
  cover_latest := h.cover_latest
  accounted := by
    intro r hr
    rcases List.mem_append.1 hr with hr | hr
    · exact h.accounted r hr
    · obtain rfl : r = p := by simpa using hr
      right
      rcases drops_iff.1 hd with ⟨c, hc, hcr⟩ | ⟨q, hq, hqr⟩
      · obtain ⟨-, q, hq, rfl⟩ := h.cover_mem c hc
        exact ⟨q, hq, .inl hcr⟩
      · exact ⟨q, List.mem_of_mem_head? hq, .inr hqr⟩

private theorem keep {s : Sweep} {seen : List PlacedEdit} (h : s.Tracks seen) {p : PlacedEdit}
    (hf : ∀ q ∈ s.furthest, q.edit.stop ≤ p.edit.start) : (s.keep p).Tracks (seen ++ [p]) where
  sublist := by
    show (p :: s.kept).reverse.Sublist _
    rw [List.reverse_cons]
    exact h.sublist.append (List.Sublist.refl [p])
  count := by have := h.count; simp [Sweep.keep]; omega
  apart := List.pairwise_cons.2 ⟨fun q hq => h.stop_le hf hq, h.apart⟩
  furthest_mem := by
    intro q hq
    simp only [Sweep.keep] at hq ⊢
    split at hq
    · simp_all
    · exact List.mem_cons_of_mem p (h.furthest_mem q hq)
  furthest_max := by
    intro r hr
    have hold : ∀ r ∈ s.kept, ∃ q ∈ s.furthest, r.edit.stop ≤ q.edit.stop := h.furthest_max
    simp only [Sweep.keep] at hr ⊢
    cases hs : s.furthest with
    | none =>
      rcases List.mem_cons.1 hr with rfl | hr
      · simp
      · obtain ⟨q, hq, -⟩ := hold r hr
        simp [hs] at hq
    | some f =>
      by_cases hfp : f.edit.stop ≤ p.edit.stop
      · refine ⟨p, by simp [hfp], ?_⟩
        rcases List.mem_cons.1 hr with rfl | hr
        · exact Nat.le_refl _
        · obtain ⟨q, hq, hrq⟩ := hold r hr
          obtain rfl : f = q := by simpa [hs] using hq
          omega
      · refine ⟨f, by simp [hfp], ?_⟩
        rcases List.mem_cons.1 hr with rfl | hr
        · omega
        · obtain ⟨q, hq, hrq⟩ := hold r hr
          obtain rfl : f = q := by simpa [hs] using hq
          exact hrq
  cover_mem := by
    intro c hc
    simp only [Sweep.keep] at hc ⊢
    split at hc
    · rename_i hp
      obtain rfl : p.edit = c := by simpa using hc
      exact ⟨hp, p, by simp, rfl⟩
    · obtain ⟨hdel, q, hq, hqc⟩ := h.cover_mem c hc
      exact ⟨hdel, q, List.mem_cons_of_mem p hq, hqc⟩
  cover_latest := by
    intro q hq hdel
    simp only [Sweep.keep] at hq ⊢
    split
    · -- the new edit is the cover, and every edit kept before it stops in front of it
      refine ⟨p.edit, by simp, ?_⟩
      rcases List.mem_cons.1 hq with rfl | hq
      · exact .inl rfl
      · exact .inr (h.stop_le hf hq)
    · rename_i hp
      rcases List.mem_cons.1 hq with rfl | hq
      · exact absurd hdel hp
      · exact h.cover_latest q hq hdel
  accounted := by
    intro r hr
    simp only [Sweep.keep]
    rcases List.mem_append.1 hr with hr | hr
    · rcases h.accounted r hr with hk | ⟨q, hq, hqr⟩
      · exact .inl (List.mem_cons_of_mem p hk)
      · exact .inr ⟨q, List.mem_cons_of_mem p hq, hqr⟩
    · obtain rfl : r = p := by simpa using hr
      exact .inl (by simp)

theorem step {s s' : Sweep} {seen : List PlacedEdit} (h : s.Tracks seen) {p : PlacedEdit}
    (hs : s.step p = .ok s') : s'.Tracks (seen ++ [p]) := by
  rcases step_eq_ok hs with ⟨hd, rfl⟩ | ⟨-, hf, rfl⟩
  · exact h.drop hd
  · exact h.keep hf

/-- A deletion that takes in the next edit of the sweep is spoken for by the cover. -/
theorem drops_of_supersedes {s : Sweep} {seen : List PlacedEdit} (h : s.Tracks seen) {p d : PlacedEdit}
    (hord : ∀ q ∈ seen, q.comesBefore p = true) (hseen : ∀ q ∈ seen, q.edit.start ≤ q.edit.stop)
    (hd : d ∈ seen) (hdp : d.edit.supersedes p.edit = true) : s.drops p.edit = true := by
  -- a kept deletion takes in `p`: either `d` or what took in `d`
  obtain ⟨q, hq, hqp⟩ : ∃ q ∈ s.kept, q.edit.supersedes p.edit = true := by
    rcases h.accounted d hd with hk | ⟨q, hq, hqd | hqd⟩
    · exact ⟨d, hk, hdp⟩
    · exact ⟨q, hq, Edit.supersedes_trans hqd hdp⟩
    · exact ⟨q, hq, hqd ▸ hdp⟩
  obtain ⟨c, hc, hcq⟩ := h.cover_latest q hq (Edit.isDelete_of_supersedes hqp)
  refine drops_iff.2 (.inl ⟨c, hc, ?_⟩)
  rcases hcq with rfl | hcq
  · exact hqp
  · obtain ⟨hdel, r, hr, rfl⟩ := h.cover_mem c hc
    have hrp := PlacedEdit.start_le_of_comesBefore (hord r (h.mem_seen hr))
    have hrr := hseen r (h.mem_seen hr)
    rw [Edit.supersedes_iff] at hqp ⊢
    refine ⟨hdel, ?_⟩
    cases hi : p.edit.isInsert with
    | true => simp only [hi, ↓reduceIte] at hqp; omega
    | false =>
      -- `p` is the empty span between `q` and the cover, and so inside the cover too
      simp only [hi, Bool.false_eq_true, ↓reduceIte] at hqp ⊢
      omega

end Tracks

/-- No edit seen takes in a kept one, unless the two are equal. -/
def Spares (s : Sweep) (seen : List PlacedEdit) : Prop :=
  ∀ p ∈ s.kept, ∀ d ∈ seen, d.edit.supersedes p.edit = true → d.edit = p.edit

theorem Spares.step {s s' : Sweep} {seen : List PlacedEdit} (h : s.Spares seen) (ht : s.Tracks seen)
    {p : PlacedEdit} (hord : ∀ q ∈ seen, q.comesBefore p = true)
    (hseen : ∀ q ∈ seen, q.edit.start ≤ q.edit.stop) (hs : s.step p = .ok s') : s'.Spares (seen ++ [p]) := by
  have hold : ∀ q ∈ s.kept, ∀ d ∈ seen ++ [p], d.edit.supersedes q.edit = true → d.edit = q.edit := by
    intro q hq d hd hdq
    rcases List.mem_append.1 hd with hd | hd
    · exact h q hq d hd hdq
    · obtain rfl : d = p := by simpa using hd
      exact Edit.eq_of_supersedes_earlier (hord q (ht.mem_seen hq)) hdq
  rcases step_eq_ok hs with ⟨-, rfl⟩ | ⟨hd, -, rfl⟩
  · exact hold
  · intro q hq d hdm hdq
    rcases List.mem_cons.1 hq with rfl | hq
    · rcases List.mem_append.1 hdm with hdm | hdm
      · rw [ht.drops_of_supersedes hord hseen hdm hdq] at hd
        cases hd
      · obtain rfl : d = q := by simpa using hdm
        rfl
    · exact hold q hq d hdm hdq

/-! ### A whole run -/

/-- What every step keeps holds after a run that goes well, and right before the step at which a run fails. The steps
are taken at the edits of `all`, with those seen in front. -/
theorem run_spec {I : Sweep → List PlacedEdit → Prop} {all : List PlacedEdit}
    (hstep : ∀ s seen p rest s', all = seen ++ p :: rest → I s seen → s.step p = .ok s' → I s' (seen ++ [p]))
    (ps : List PlacedEdit) {s : Sweep} {seen : List PlacedEdit} (hall : all = seen ++ ps) (h : I s seen) :
    (∀ s', s.run ps = .ok s' → I s' all) ∧
      ∀ c, s.run ps = .error c →
        ∃ s' seen' p rest, all = seen' ++ p :: rest ∧ I s' seen' ∧ s'.step p = .error c := by
  induction ps generalizing s seen with
  | nil =>
    refine ⟨?_, nofun⟩
    intro s' hs'
    cases hs'
    simpa [hall] using h
  | cons p ps ih =>
    unfold run
    split
    · rename_i c hc
      refine ⟨nofun, ?_⟩
      intro c' hc'
      cases hc'
      exact ⟨s, seen, p, ps, hall, h, hc⟩
    · rename_i s₁ hs₁
      exact ih (by simpa using hall) (hstep s seen p ps s₁ hall h hs₁)

end Sweep

end EditSet

end ScriptTidy
