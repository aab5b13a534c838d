import ScriptTidy.Proofs.Edit.Apply
import ScriptTidy.Proofs.Edit.Deletions

/-!
# Replacements in place

An edit works in place when its replacement is as long as its span. Such edits move no offset: in the text after them,
a span that is apart from all of them holds what it held before, and the span of an edit holds its replacement
(`apply_in_place`). Whatever their length, replacements that are apart are merged as they are (`merge_perm_of_apart`).
-/

namespace ScriptTidy

/-! ### Slices of one side of a text -/

private theorem slice?_append_left {a b : String} {r : Span} (h : r.stop ≤ a.utf8ByteSize) :
    slice? (a ++ b) r = slice? a r := by
  ext t
  rw [slice?_eq_some_iff, slice?_eq_some_iff]
  constructor
  · rintro ⟨x, y, heq, hstart, hstop⟩
    obtain ⟨m, rfl⟩ := exists_append_of_le heq.symm (by omega)
    exact ⟨x, m, rfl, hstart, hstop⟩
  · rintro ⟨x, y, rfl, hstart, hstop⟩
    exact ⟨x, y ++ b, by rw [String.append_assoc], hstart, hstop⟩

/-- What stands in front does not matter, only how long it is. -/
private theorem slice?_append_right {a b c : String} {r : Span} (h : a.utf8ByteSize ≤ r.start)
    (hsize : c.utf8ByteSize = a.utf8ByteSize) : slice? (a ++ b) r = slice? (c ++ b) r := by
  -- by symmetry, one direction is enough
  have hone : ∀ {a c t : String}, a.utf8ByteSize ≤ r.start → c.utf8ByteSize = a.utf8ByteSize →
      slice? (a ++ b) r = some t → slice? (c ++ b) r = some t := by
    intro a c t h hsize ht
    obtain ⟨x, y, heq, hstart, hstop⟩ := slice?_eq_some_iff.1 ht
    obtain ⟨m, rfl⟩ := exists_append_of_le (heq.trans (String.append_assoc ..)) (by omega)
    have hb : b = m ++ t ++ y := by
      simpa [String.append_assoc] using heq
    refine slice?_eq_some_iff.2 ⟨c ++ m, y, by simp [hb, String.append_assoc], ?_, ?_⟩
    · rw [← hstart]
      simp [hsize]
    · rw [← hstop]
      simp [hsize]
  ext t
  exact ⟨hone h hsize, hone (by omega) hsize.symm⟩

namespace EditSet

/-- The replacement of the edit is as long as the text that it replaces. -/
def InPlace (text : String) (e : Edit) : Prop :=
  ∃ old, slice? text e.span = some old ∧ old.utf8ByteSize = e.replacement.utf8ByteSize

namespace InPlace

variable {text : String} {e : Edit}

theorem fits (h : InPlace text e) : Fits text e := by
  obtain ⟨old, hold, -⟩ := h
  obtain ⟨a, b, rfl, hstart, hstop⟩ := slice?_eq_some_iff.1 hold
  have hinside : e.stop ≤ (a ++ old ++ b).utf8ByteSize := by
    simp only [Edit.stop, ← hstop, String.utf8ByteSize_append]
    omega
  refine ⟨?_, hinside, ?_, ?_⟩
  · simp only [Edit.start, Edit.stop, ← hstart, ← hstop, String.utf8ByteSize_append]
    omega
  · exact isBoundary_iff.2 ⟨a, old ++ b, String.append_assoc .., hstart⟩
  · exact isBoundary_iff.2 ⟨a ++ old, b, rfl, hstop⟩

/-- The text around the span of an edit, before and after. -/
private theorem split (h : InPlace text e) :
    ∃ a old b : String, text = a ++ old ++ b ∧ applyEdit e text = a ++ e.replacement ++ b ∧
      old.utf8ByteSize = e.replacement.utf8ByteSize ∧ a.utf8ByteSize = e.span.start ∧
      (a ++ old).utf8ByteSize = e.span.stop := by
  obtain ⟨old, hold, hsize⟩ := h
  obtain ⟨a, b, rfl, hstart, hstop⟩ := slice?_eq_some_iff.1 hold
  refine ⟨a, old, b, rfl, ?_, hsize, hstart, hstop⟩
  have hspan : e.span = ⟨a.utf8ByteSize, (a ++ old).utf8ByteSize⟩ := by rw [hstart, hstop]
  rw [applyEdit, hspan, splice_append]

/-- An edit in place keeps what is apart from it. -/
private theorem slice?_of_apart (h : InPlace text e) {r : Span} (hr : e.span.Apart r) :
    slice? (applyEdit e text) r = slice? text r := by
  obtain ⟨a, old, b, rfl, happly, hsize, hstart, hstop⟩ := h.split
  rw [happly]
  rcases hr with hr | hr
  · have hlen : (a ++ old).utf8ByteSize = (a ++ e.replacement).utf8ByteSize := by simp [hsize]
    exact slice?_append_right (by omega) hlen
  · have hr' : r.stop ≤ a.utf8ByteSize := by omega
    rw [String.append_assoc, slice?_append_left hr', String.append_assoc, slice?_append_left hr']

private theorem slice?_span (h : InPlace text e) : slice? (applyEdit e text) e.span = some e.replacement := by
  obtain ⟨a, old, b, rfl, happly, hsize, hstart, hstop⟩ := h.split
  rw [happly]
  refine slice?_eq_some_iff.2 ⟨a, b, rfl, hstart, ?_⟩
  simp only [String.utf8ByteSize_append] at hstop ⊢
  omega

end InPlace

/-- Edits in place that are apart keep what is apart from all of them, and put their replacements into their spans. -/
private theorem slice?_foldr {source : String} {es : List Edit} (hplace : ∀ e ∈ es, InPlace source e)
    (hapart : es.Pairwise fun a b => a.span.Apart b.span) :
    (∀ r : Span, (∀ e ∈ es, e.span.Apart r) → slice? (es.foldr applyEdit source) r = slice? source r) ∧
      ∀ e ∈ es, slice? (es.foldr applyEdit source) e.span = some e.replacement := by
  induction es with
  | nil => simp
  | cons e es ih =>
    obtain ⟨hfirst, hapart⟩ := List.pairwise_cons.1 hapart
    obtain ⟨hkeep, hput⟩ := ih (fun f hf => hplace f (by simp [hf])) hapart
    -- the later edits have left the span of `e` alone
    have he : InPlace (es.foldr applyEdit source) e := by
      unfold InPlace
      rw [hkeep e.span fun f hf => (hfirst f hf).symm]
      exact hplace e (by simp)
    rw [List.foldr_cons]
    constructor
    · intro r hr
      rw [he.slice?_of_apart (hr e (by simp)), hkeep r fun f hf => hr f (by simp [hf])]
    · intro f hf
      rcases List.mem_cons.1 hf with rfl | hf
      · exact he.slice?_span
      · rw [he.slice?_of_apart (hfirst f hf), hput f hf]

/-- A merged set of edits in place can be applied. It keeps what is apart from all its edits, and puts the
replacements into their spans. -/
theorem apply_in_place {edits : List Edit} {set : EditSet} (h : merge edits = .ok set) {source : String}
    (hplace : ∀ e ∈ set.edits, InPlace source e) :
    ∃ text, set.apply source = .ok text ∧
      (∀ r : Span, (∀ e ∈ set.edits, e.span.Apart r) → slice? text r = slice? source r) ∧
      ∀ e ∈ set.edits, slice? text e.span = some e.replacement := by
  have hvalid : set.validate source = .ok () := validate_eq_ok_iff.2 fun e he => (hplace e he).fits
  have hapart : set.edits.Pairwise fun a b => a.span.Apart b.span :=
    (merge_pairwise h).imp fun hab => .inl hab.2
  obtain ⟨hkeep, hput⟩ := slice?_foldr hplace hapart
  exact ⟨_, apply_eq_ok hvalid, hkeep, hput⟩

/-- Edits do not conflict when their spans have bytes and are apart. -/
theorem merge_ok_of_apart {edits : List Edit} (hbyte : ∀ e ∈ edits, e.start < e.stop)
    (hapart : ∀ a ∈ edits, ∀ b ∈ edits, a = b ∨ a.span.Apart b.span) : ∃ set, merge edits = .ok set := by
  cases hm : merge edits with
  | ok set => exact ⟨set, rfl⟩
  | error c =>
    obtain ⟨hfirst, hsecond, hpair, hstart, hinside⟩ := conflict_spec (fun e he => Nat.le_of_lt (hbyte e he)) hm
    have hsecond' := hbyte _ (mem_of_mem_agenda hsecond)
    have happart := (hapart _ (mem_of_mem_agenda hfirst) _ (mem_of_mem_agenda hsecond)).resolve_left hpair.ne
    simp only [Edit.start, Edit.stop] at hstart hinside hsecond'
    rcases happart with h | h <;> omega

/-- Merging changes nothing but the order of edits when none is a deletion, their spans have bytes and are apart. -/
theorem merge_perm_of_apart {edits : List Edit} (hbyte : ∀ e ∈ edits, e.start < e.stop)
    (hstays : ∀ e ∈ edits, e.isDelete = false) (hapart : edits.Pairwise fun a b => a.span.Apart b.span) :
    ∃ set, merge edits = .ok set ∧ set.superseded = 0 ∧ set.edits.Perm edits := by
  obtain ⟨set, hset⟩ := merge_ok_of_apart hbyte fun a ha b hb => Span.eq_or_apart hapart ha hb
  have hmem : ∀ e, e ∈ set.edits ↔ e ∈ edits := by
    refine fun e => ⟨mem_of_mem_merge hset, fun he => ?_⟩
    rcases mem_or_superseded_of_merge hset he with hmem | ⟨d, hd, hsup⟩
    · exact hmem
    · have hdelete := Edit.isDelete_of_supersedes hsup
      rw [hstays d (mem_of_mem_merge hset hd)] at hdelete
      cases hdelete
  have hnodup : set.edits.Nodup := by
    refine (merge_pairwise hset).imp_of_mem fun {a b} ha _ hab => ?_
    rintro rfl
    have := hbyte a ((hmem a).1 ha)
    omega
  have hnodup' : edits.Nodup := by
    refine hapart.imp_of_mem fun {a b} ha _ hab => ?_
    rintro rfl
    have := hbyte a ha
    simp only [Span.Apart, Edit.start, Edit.stop] at hab this
    omega
  have hperm := (List.perm_ext_iff_of_nodup hnodup hnodup').2 hmem
  refine ⟨set, hset, ?_, hperm⟩
  have hsize := length_add_superseded_of_merge hset
  have hlength := hperm.length_eq
  omega

end EditSet

end ScriptTidy
