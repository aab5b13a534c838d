import ScriptTidy.Proofs.Edit.Deletions
import ScriptTidy.Proofs.Edit.InOrder

/-!
# Deleting tiles of a text

Spans that stand side by side tile a part of a text (`Span.Tile`). Deletions in order are carried out as they are, also
where some of them have no byte (`apply_of_deletions`). So when some of the tiles are deleted, the text of the others
stays, in order, with nothing in between (`apply_of_tile`).
-/

namespace ScriptTidy

/-- The spans stand side by side from `start` to `stop`: each starts where the one in front of it stops. -/
inductive Span.Tile : Nat → List Span → Nat → Prop
  | nil (start : Nat) : Tile start [] start
  | cons {start stop : Nat} {span : Span} {spans : List Span} (hstart : span.start = start)
      (hle : span.start ≤ span.stop) (h : Tile span.stop spans stop) : Tile start (span :: spans) stop

namespace Span.Tile

variable {start stop : Nat} {spans : List Span}

theorem le (h : Tile start spans stop) : start ≤ stop := by
  induction h with
  | nil => exact Nat.le_refl _
  | cons hstart hle _ ih => omega

theorem bounds (h : Tile start spans stop) {s : Span} (hs : s ∈ spans) :
    start ≤ s.start ∧ s.start ≤ s.stop ∧ s.stop ≤ stop := by
  induction h with
  | nil => cases hs
  | cons hstart hle h ih =>
    rcases List.mem_cons.1 hs with rfl | hs
    · exact ⟨Nat.le_of_eq hstart.symm, hle, h.le⟩
    · have := ih hs
      omega

/-- Tiles do not overlap. -/
theorem pairwise (h : Tile start spans stop) : spans.Pairwise fun s t => s.stop ≤ t.start := by
  induction h with
  | nil => exact .nil
  | cons _ _ h ih => exact .cons (fun t ht => (h.bounds ht).1) ih

/-- Tiles leave no gap. -/
theorem exists_holds (h : Tile start spans stop) {offset : Nat} (hstart : start ≤ offset) (hstop : offset < stop) :
    ∃ s ∈ spans, s.holds offset = true := by
  induction h with
  | nil => omega
  | @cons start stop span spans hspan _ h ih =>
    by_cases hfirst : offset < span.stop
    · exact ⟨span, List.mem_cons_self, by simp [holds, hspan, hstart, hfirst]⟩
    · obtain ⟨s, hs, hholds⟩ := ih (by omega) hstop
      exact ⟨s, List.mem_cons_of_mem _ hs, hholds⟩

end Span.Tile

namespace EditSet

/-- The edit takes out at least one byte. -/
def hasByte (e : Edit) : Bool := e.start < e.stop

private theorem replacement_of_isDelete {e : Edit} (h : e.isDelete = true) : e.replacement = "" := by
  cases e with
  | delete => rfl
  | replace => cases h
  | insert => cases h

private theorem hasByte_iff {e : Edit} : hasByte e = true ↔ e.start < e.stop := by simp [hasByte]

section Deletions

variable {edits : List Edit} {source text : String}

private theorem nodup_filter_hasByte {es : List Edit} (hapart : es.Pairwise fun a b => a.stop ≤ b.start) :
    (es.filter hasByte).Nodup := by
  refine List.pairwise_filter.2 (hapart.imp fun {a b} hab ha _ => ?_)
  rintro rfl
  have := hasByte_iff.1 ha
  omega

/-- Two lists of edits in order that have the same edits with bytes have them in the same order. -/
private theorem filter_hasByte_eq {es fs : List Edit} (hes : es.Pairwise fun a b => a.stop ≤ b.start)
    (hfs : fs.Pairwise fun a b => a.stop ≤ b.start) (hmem : ∀ e, hasByte e = true → (e ∈ es ↔ e ∈ fs)) :
    es.filter hasByte = fs.filter hasByte := by
  have hperm : (es.filter hasByte).Perm (fs.filter hasByte) := by
    refine (List.perm_ext_iff_of_nodup (nodup_filter_hasByte hes) (nodup_filter_hasByte hfs)).2 fun e => ?_
    rw [List.mem_filter, List.mem_filter]
    exact and_congr_left (hmem e)
  refine hperm.eq_of_pairwise (fun a b ha hb hab hba => ?_) (hes.filter _) (hfs.filter _)
  have ha := hasByte_iff.1 (List.mem_filter.1 ha).2
  have hb := hasByte_iff.1 (List.mem_filter.1 hb).2
  omega

/-- Merging deletions in order keeps all that have bytes. -/
private theorem merge_of_deletions (hdelete : ∀ e ∈ edits, e.isDelete = true ∧ e.start ≤ e.stop)
    (hapart : edits.Pairwise fun a b => a.stop ≤ b.start) :
    ∃ set, merge edits = .ok set ∧ set.edits.filter hasByte = edits.filter hasByte := by
  have hpair : edits.Pairwise fun a b => a.span.Apart b.span := hapart.imp fun h => .inl h
  obtain ⟨set, hset⟩ := merge_ok_of_laminar hdelete fun a ha b hb => by
    rcases Span.eq_or_apart hpair ha hb with rfl | h
    · exact .inl (Span.covers_self _)
    · exact .inr (.inr h)
  refine ⟨set, hset, filter_hasByte_eq ((merge_pairwise hset).imp And.right) hapart fun e hbyte =>
    ⟨mem_of_mem_merge hset, fun he => ?_⟩⟩
  rcases mem_or_superseded_of_merge hset he with hmem | ⟨d, hd, hsup⟩
  · exact hmem
  · -- a deletion that covers `e` and stands in order with it is `e`
    rcases Span.eq_or_apart hpair (mem_of_mem_merge hset hd) he with rfl | hapart
    · exact hd
    · have hcovers := (Edit.supersedes_iff.1 hsup).2
      rw [if_neg (by simp [Edit.isInsert_of_isDelete (hdelete e he).1])] at hcovers
      have hbyte := hasByte_iff.1 hbyte
      simp only [Span.Apart, Edit.start, Edit.stop] at hapart hcovers hbyte
      omega

/-- Deletions that have no byte can be left out. -/
private theorem rewrittenFrom?_filter_hasByte {es : List Edit} (hdelete : ∀ e ∈ es, e.isDelete = true)
    (hapart : es.Pairwise fun a b => a.stop ≤ b.start) (hfits : ∀ e ∈ es, Fits source e) {pos : Nat}
    (hpos : isBoundary source pos = true) (hfirst : ∀ e ∈ es, pos ≤ e.start) :
    rewrittenFrom? source pos (es.filter hasByte) = rewrittenFrom? source pos es := by
  induction es generalizing pos with
  | nil => rfl
  | cons e es ih =>
    obtain ⟨hbehind, hapart⟩ := List.pairwise_cons.1 hapart
    have he := hfits e List.mem_cons_self
    have hle := hfirst e List.mem_cons_self
    have hfits' : ∀ f ∈ es, Fits source f := fun f hf => hfits f (List.mem_cons_of_mem _ hf)
    have hrest := ih (fun f hf => hdelete f (List.mem_cons_of_mem _ hf)) hapart hfits' he.stop_boundary hbehind
    rw [rewrittenFrom?_cons hpos he.start_boundary hle, ← hrest]
    by_cases hbyte : hasByte e = true
    · rw [List.filter_cons_of_pos hbyte, rewrittenFrom?_cons hpos he.start_boundary hle]
    · have hstop : e.stop = e.start := by
        have := he.ordered
        rw [hasByte_iff] at hbyte
        omega
      have hempty : e.replacement = "" := replacement_of_isDelete (hdelete e List.mem_cons_self)
      rw [List.filter_cons_of_neg hbyte, hempty, hstop, String.append_empty]
      refine rewrittenFrom?_of_le hpos he.start_boundary hle (fun f hf => hfits' f (List.mem_filter.1 hf).1)
        fun f hf => hstop ▸ hbehind f (List.mem_filter.1 hf).1

/-- Deletions in order are carried out as they are: the outcome is the source read from left to right. -/
theorem apply_of_deletions (hdelete : ∀ e ∈ edits, e.isDelete = true)
    (hapart : edits.Pairwise fun a b => a.stop ≤ b.start) (hfits : ∀ e ∈ edits, Fits source e)
    (htext : rewrittenFrom? source 0 edits = some text) :
    ∃ set, merge edits = .ok set ∧ set.apply source = .ok text := by
  obtain ⟨set, hset, hfilter⟩ := merge_of_deletions (fun e he => ⟨hdelete e he, (hfits e he).ordered⟩) hapart
  have hmem : ∀ e ∈ set.edits, e ∈ edits := fun e => mem_of_mem_merge hset
  have hsorted := (merge_pairwise hset).imp And.right
  have hset' := fun e he => hfits e (hmem e he)
  obtain ⟨read, hread, happly⟩ := exists_rewritten set hset' hsorted
  have hzero := isBoundary_zero source
  rw [← rewrittenFrom?_filter_hasByte (fun e he => hdelete e (hmem e he)) hsorted hset' hzero fun e _ => Nat.zero_le _,
    hfilter, rewrittenFrom?_filter_hasByte hdelete hapart hfits hzero fun e _ => Nat.zero_le _, htext] at hread
  obtain rfl := Option.some.inj hread
  exact ⟨set, hset, happly⟩

end Deletions

section Tiles

variable {α : Type} {xs : List α} {span : α → Span} {source : String} {start stop : Nat} (goes : α → Bool)

/-- The deletions of the tiles that go are in order and fit the source. -/
private theorem fits_of_tile (htile : Span.Tile start (xs.map span) stop) (hstart : isBoundary source start = true)
    (hstop : ∀ x ∈ xs, isBoundary source (span x).stop = true) :
    (∀ x ∈ xs, Fits source (.delete (span x))) ∧
      ((xs.filter goes).map fun x => Edit.delete (span x)).Pairwise fun a b => a.stop ≤ b.start := by
  constructor
  · induction xs generalizing start with
    | nil => simp
    | cons x xs ih =>
      cases htile with
      | cons hfirst hle htile =>
        subst hfirst
        have hx := hstop x List.mem_cons_self
        intro y hy
        rcases List.mem_cons.1 hy with rfl | hy
        · exact ⟨hle, le_of_isBoundary hx, hstart, hx⟩
        · exact ih htile hx (fun y hy => hstop y (List.mem_cons_of_mem _ hy)) y hy
  · exact List.pairwise_map.2 ((List.pairwise_map.1 htile.pairwise).filter _)

/-- From the start of the tiles on, the source without the tiles that go is the text of the others and the rest. -/
private theorem rewrittenFrom?_of_tile (htile : Span.Tile start (xs.map span) stop)
    (hstart : isBoundary source start = true) (hstop : ∀ x ∈ xs, isBoundary source (span x).stop = true) :
    rewrittenFrom? source start ((xs.filter goes).map fun x => .delete (span x)) =
      some (String.join ((xs.filter (!goes ·)).map fun x => slice source (span x)) ++
        slice source ⟨stop, source.utf8ByteSize⟩) := by
  induction xs generalizing start with
  | nil =>
    cases htile
    rw [List.filter_nil, List.map_nil, rewrittenFrom?_nil hstart]
    simp
  | cons x xs ih =>
    cases htile with
    | cons hfirst hle htile =>
      subst hfirst
      have hx := hstop x List.mem_cons_self
      have hstop' : ∀ y ∈ xs, isBoundary source (span y).stop = true := fun y hy =>
        hstop y (List.mem_cons_of_mem _ hy)
      cases hgoes : goes x with
      | true =>
        rw [List.filter_cons_of_pos hgoes, List.map_cons,
          rewrittenFrom?_cons (e := .delete (span x)) hstart hstart (Nat.le_refl _), Edit.stop_delete,
          ih htile hx hstop', List.filter_cons_of_neg (by simp [hgoes])]
        simp [slice_point hstart, Edit.replacement]
      | false =>
        obtain ⟨hfits, -⟩ := fits_of_tile goes htile hx hstop'
        have hbehind : ∀ e ∈ (xs.filter goes).map fun x => Edit.delete (span x),
            Fits source e ∧ (span x).stop ≤ e.start := by
          intro e he
          obtain ⟨y, hy, rfl⟩ := List.mem_map.1 he
          have hy := (List.mem_filter.1 hy).1
          exact ⟨hfits y hy, (htile.bounds (List.mem_map_of_mem hy)).1⟩
        rw [List.filter_cons_of_neg (by simp [hgoes]), rewrittenFrom?_of_le hstart hx hle
          (fun e he => (hbehind e he).1) (fun e he => (hbehind e he).2), ih htile hx hstop',
          List.filter_cons_of_pos (by simp [hgoes]), List.map_cons, String.join_cons, Option.map_some,
          String.append_assoc]

/-- When some of the tiles of a text are deleted, the text in front and behind stays and that of all other tiles, in
order. -/
theorem apply_of_tile (htile : Span.Tile start (xs.map span) stop) (hstart : isBoundary source start = true)
    (hstop : ∀ x ∈ xs, isBoundary source (span x).stop = true) :
    ∃ set, merge ((xs.filter goes).map fun x => .delete (span x)) = .ok set ∧
      set.apply source = .ok (slice source ⟨0, start⟩ ++
        String.join ((xs.filter (!goes ·)).map fun x => slice source (span x)) ++
        slice source ⟨stop, source.utf8ByteSize⟩) := by
  obtain ⟨hfits, hapart⟩ := fits_of_tile goes htile hstart hstop
  have hall : ∀ e ∈ (xs.filter goes).map fun x => Edit.delete (span x),
      e.isDelete = true ∧ Fits source e ∧ start ≤ e.start := by
    intro e he
    obtain ⟨x, hx, rfl⟩ := List.mem_map.1 he
    have hx := (List.mem_filter.1 hx).1
    exact ⟨rfl, hfits x hx, (htile.bounds (List.mem_map_of_mem hx)).1⟩
  refine apply_of_deletions (fun e he => (hall e he).1) hapart (fun e he => (hall e he).2.1) ?_
  rw [rewrittenFrom?_of_le (isBoundary_zero source) hstart (Nat.zero_le _) (fun e he => (hall e he).2.1)
    (fun e he => (hall e he).2.2), rewrittenFrom?_of_tile goes htile hstart hstop, Option.map_some,
    String.append_assoc]

end Tiles

end EditSet

end ScriptTidy
