import Mathlib.Data.List.Basic
import ScriptTidy.Proofs.Edit.Apply

/-!
# Edits in order

Edits that have bytes, and of which each stops before the next one starts, pass the sweep untouched
(`merge_of_inOrder`). With `exists_rewritten` this gives the outcome of such a list of edits without a look at the
merged set (`apply_of_inOrder`).
-/

namespace ScriptTidy

namespace EditSet

namespace Sweep

/-- All that the sweep holds stops in front of an edit. -/
private structure IsInFront (s : Sweep) (e : Edit) : Prop where
  cover : ∀ d ∈ s.cover, d.stop ≤ e.start
  kept : ∀ p ∈ s.kept.head?, p.edit.stop ≤ e.start
  furthest : ∀ p ∈ s.furthest, p.edit.stop ≤ e.start

variable {s : Sweep} {p : PlacedEdit}

private theorem IsInFront.step (h : s.IsInFront p.edit) (hbyte : p.edit.start < p.edit.stop) :
    s.step p = .ok (s.keep p) := by
  have hdrops : s.drops p.edit = false := by
    rw [Bool.eq_false_iff, ne_eq, drops_iff]
    rintro (⟨d, hd, hsup⟩ | ⟨q, hq, heq⟩)
    · have hd := h.cover d hd
      have hsup := (Edit.supersedes_iff.1 hsup).2
      split at hsup <;> omega
    · have hq := h.kept q hq
      rw [heq] at hq
      omega
  exact step_of_apart hdrops h.furthest

private theorem IsInFront.keep (h : s.IsInFront p.edit) (hbyte : p.edit.start < p.edit.stop) {e : Edit}
    (he : p.edit.stop ≤ e.start) : (s.keep p).IsInFront e := by
  refine ⟨fun d hd => ?_, fun q hq => ?_, fun q hq => ?_⟩
  · unfold Sweep.keep at hd
    dsimp only at hd
    split at hd
    · obtain rfl := Option.mem_some.1 hd
      exact he
    · have := h.cover d hd
      omega
  · obtain rfl : p = q := by simpa [Sweep.keep] using hq
    exact he
  · unfold Sweep.keep at hq
    dsimp only at hq
    split at hq
    · obtain rfl := Option.mem_some.1 hq
      exact he
    · have := h.furthest q hq
      omega

/-- Edits in order are kept, all of them. -/
private theorem run_of_inOrder {es : List Edit} (hbyte : ∀ e ∈ es, e.start < e.stop)
    (hapart : es.Pairwise fun a b => a.stop ≤ b.start) : ∀ (k : Nat) (s : Sweep), (∀ e ∈ es, s.IsInFront e) →
      ∃ s', s.run (PlacedEdit.number k es) = .ok s' ∧ s'.kept.reverse.map (·.edit) = s.kept.reverse.map (·.edit) ++ es ∧
        s'.superseded = s.superseded := by
  induction es with
  | nil =>
    intro k s _
    exact ⟨s, rfl, by simp, rfl⟩
  | cons e es ih =>
    intro k s hfront
    obtain ⟨hfirst, hapart⟩ := List.pairwise_cons.1 hapart
    have he := hfront e (by simp)
    have hlt := hbyte e (by simp)
    obtain ⟨s', hrun, hkept, hsuperseded⟩ := ih (fun f hf => hbyte f (by simp [hf])) hapart (k + 1) (s.keep ⟨k, e⟩)
      fun f hf => IsInFront.keep (p := ⟨k, e⟩) he hlt (hfirst f hf)
    refine ⟨s', ?_, ?_, hsuperseded⟩
    · rw [PlacedEdit.number, run, IsInFront.step (p := ⟨k, e⟩) he hlt]
      exact hrun
    · rw [hkept]
      simp [Sweep.keep]

end Sweep

/-- Merging leaves edits in order as they are. -/
theorem merge_of_inOrder {edits : List Edit} (hbyte : ∀ e ∈ edits, e.start < e.stop)
    (hapart : edits.Pairwise fun a b => a.stop ≤ b.start) : merge edits = .ok ⟨edits, 0⟩ := by
  have hsorted : (PlacedEdit.number 0 edits).Pairwise fun a b => a.comesBefore b = true := by
    suffices ∀ k, (PlacedEdit.number k edits).Pairwise fun a b => a.comesBefore b = true from this 0
    induction edits with
    | nil => exact fun _ => .nil
    | cons e es ih =>
      intro k
      obtain ⟨hfirst, hapart⟩ := List.pairwise_cons.1 hapart
      refine .cons (fun p hp => ?_) (ih (fun f hf => hbyte f (by simp [hf])) hapart _)
      have hp : p.edit ∈ es := List.mem_of_getElem? (PlacedEdit.mem_number.1 hp).2
      have h₁ := hbyte e (by simp)
      have h₂ := hfirst p.edit hp
      rw [PlacedEdit.comesBefore, if_pos (by dsimp only; omega)]
      exact decide_eq_true (by dsimp only; omega)
  obtain ⟨s, hrun, hkept, hsuperseded⟩ := Sweep.run_of_inOrder hbyte hapart 0 .empty fun e _ =>
    ⟨by simp [Sweep.empty], by simp [Sweep.empty], by simp [Sweep.empty]⟩
  rw [merge, List.mergeSort_of_pairwise hsorted, hrun]
  simp [hkept, hsuperseded, Sweep.empty]

/-- Edits in order are carried out as they are: the outcome is the source read from left to right. -/
theorem apply_of_inOrder {edits : List Edit} {source : String} (hbyte : ∀ e ∈ edits, e.start < e.stop)
    (hapart : edits.Pairwise fun a b => a.stop ≤ b.start) (hfits : ∀ e ∈ edits, Fits source e) {text : String}
    (htext : rewrittenFrom? source 0 edits = some text) :
    ∃ set, merge edits = .ok set ∧ set.apply source = .ok text := by
  obtain ⟨read, hread, happly⟩ := exists_rewritten ⟨edits, 0⟩ hfits hapart
  obtain rfl : read = text := Option.some.inj (hread.symm.trans htext)
  exact ⟨_, merge_of_inOrder hbyte hapart, happly⟩

section Few

variable {source : String} {e d : Edit} (hstart : isBoundary source e.start = true)
  (hstop : isBoundary source e.stop = true) (hlt : e.start < e.stop)

include hstart hstop hlt

theorem apply_one : ∃ set, merge [e] = .ok set ∧
    set.apply source =
      .ok (slice source ⟨0, e.start⟩ ++ e.replacement ++ slice source ⟨e.stop, source.utf8ByteSize⟩) := by
  refine apply_of_inOrder (by simpa using hlt) (List.pairwise_singleton _ _) ?_ ?_
  · simpa using ⟨Nat.le_of_lt hlt, le_of_isBoundary hstop, hstart, hstop⟩
  · rw [rewrittenFrom?_cons (isBoundary_zero source) hstart (Nat.zero_le _), rewrittenFrom?_nil hstop]
    rfl

theorem apply_two (hstart' : isBoundary source d.start = true) (hstop' : isBoundary source d.stop = true)
    (hlt' : d.start < d.stop) (hle : e.stop ≤ d.start) :
    ∃ set, merge [e, d] = .ok set ∧
      set.apply source = .ok (slice source ⟨0, e.start⟩ ++ e.replacement ++ (slice source ⟨e.stop, d.start⟩ ++
        d.replacement ++ slice source ⟨d.stop, source.utf8ByteSize⟩)) := by
  refine apply_of_inOrder (by simpa using ⟨hlt, hlt'⟩) (List.pairwise_pair.2 hle) ?_ ?_
  · intro a ha
    rcases List.mem_pair.1 ha with rfl | rfl
    · exact ⟨Nat.le_of_lt hlt, le_of_isBoundary hstop, hstart, hstop⟩
    · exact ⟨Nat.le_of_lt hlt', le_of_isBoundary hstop', hstart', hstop'⟩
  · rw [rewrittenFrom?_cons (isBoundary_zero source) hstart (Nat.zero_le _), rewrittenFrom?_cons hstop hstart' hle,
      rewrittenFrom?_nil hstop']
    rfl

end Few

end EditSet

end ScriptTidy
