import Mathlib.Data.List.Forall2
import ScriptTidy.Proofs.Edit.Apply
import ScriptTidy.Proofs.Rule.Removal

/-!
# Commas between the variables that stay

When some but not all variables of a statement go, each run of variables that go is deleted with one of the commas
around it. The text that is left is written down here by itself, from the variables that stay (`keptText`). The
deletions leave exactly this text (`rewritten_behind`, `rewritten_from_start`), and there is one for each run
(`forall₂_behind`).
-/

namespace ScriptTidy

namespace UnusedVariables

variable {source : String} {gone : List Nat}

/-- What stays of some variables behind the offset `stop`, where the variable in front of them ends: each variable that
stays, behind the text between it and the variable in front of it. -/
def keptBehind (source : String) (gone : List Nat) (stop : Nat) : List Declarator → String
  | [] => ""
  | d :: ds =>
    if d.goes gone then keptBehind source gone d.node.span.stop ds
    else slice source ⟨stop, d.node.span.start⟩ ++ d.node.text source ++ keptBehind source gone d.node.span.stop ds

/-- What stays of the variables of a statement: the first one that stays, and those behind it with the text in front
of them. -/
def keptText (source : String) (gone : List Nat) : List Declarator → String
  | [] => ""
  | d :: ds =>
    if d.goes gone then keptText source gone ds
    else d.node.text source ++ keptBehind source gone d.node.span.stop ds

/-- The maximal runs of variables that go: the stretches between those that stay. -/
def runs (gone : List Nat) (ds : List Declarator) : List (List Declarator) :=
  (ds.splitOnP (!·.goes gone)).filter (!·.isEmpty)

/-- The spans of variables with the marks of those that go. -/
def marked (gone : List Nat) (ds : List Declarator) : List (Span × Bool) := ds.map fun d => (d.node.span, d.goes gone)

/-- Where the last of some variables ends, or `stop` where there is none. -/
def endBehind (stop : Nat) (ds : List Declarator) : Nat := (ds.getLast?.map (·.node.span.stop)).getD stop

/-- The spans stand in order behind the offset `lo`, and their ends are boundaries of the text. -/
structure Stands (source : String) (lo : Nat) (items : List (Span × Bool)) : Prop where
  order : Span.InOrder source.utf8ByteSize lo (items.map (·.1))
  boundary : ∀ i ∈ items, isBoundary source i.1.start = true ∧ isBoundary source i.1.stop = true

variable {lo kept : Nat} {kept? : Option Nat} {run? : Option Span} {d : Declarator} {ds block : List Declarator}

private theorem marked_cons_of_goes (hd : d.goes gone = true) :
    marked gone (d :: ds) = (d.node.span, true) :: marked gone ds := by
  simp [marked, hd]

private theorem marked_cons_of_stays (hd : d.goes gone = false) :
    marked gone (d :: ds) = (d.node.span, false) :: marked gone ds := by
  simp [marked, hd]

private theorem declaratorDeletions_eq :
    declaratorDeletions gone ds = (runDeletions none none (marked gone ds)).map .delete := rfl

private theorem endBehind_cons (stop : Nat) : endBehind stop (d :: ds) = endBehind d.node.span.stop ds := by
  rw [endBehind, endBehind, List.getLast?_cons]
  cases ds.getLast? <;> rfl

/-! ### The text that is left -/

theorem Stands.fits {items : List (Span × Bool)} (h : Stands source lo (outstanding kept? run? items)) :
    ∀ e ∈ (runDeletions kept? run? items).map Edit.delete, EditSet.Fits source e := by
  intro e he
  obtain ⟨r, hr, rfl⟩ := List.mem_map.1 he
  obtain ⟨-, hordered, hinside⟩ := (inOrder_runDeletions h.order).of_mem hr
  obtain ⟨⟨i, hi, hstart⟩, j, hj, hstop⟩ := isEnd_of_mem_runDeletions hr
  refine ⟨hordered, hinside, ?_, ?_⟩
  · obtain ⟨h₁, h₂⟩ := h.boundary i hi
    rcases hstart with heq | heq
    · simpa [heq] using h₁
    · simpa [heq] using h₂
  · obtain ⟨h₁, h₂⟩ := h.boundary j hj
    rcases hstop with heq | heq
    · simpa [heq] using h₁
    · simpa [heq] using h₂

/-- A variable that goes is joined to the run in front of it. -/
theorem Stands.join {span : Span} {rest : List (Span × Bool)}
    (h : Stands source lo (outstanding kept? run? ((span, true) :: rest))) :
    Stands source lo (outstanding kept? (some ⟨(run?.getD span).start, span.stop⟩) rest) := by
  refine ⟨inOrder_join h.order, fun i hi => ?_⟩
  have hspan := h.boundary (span, true) (mem_outstanding.2 (.inr (.inr (by simp))))
  rcases mem_outstanding.1 hi with hkept | ⟨r, hr, rfl⟩ | hi
  · exact h.boundary i (mem_outstanding.2 (.inl hkept))
  · obtain rfl := Option.mem_some.1 hr
    refine ⟨?_, hspan.2⟩
    cases run? with
    | none => exact hspan.1
    | some u => exact (h.boundary (u, true) (mem_outstanding.2 (.inr (.inl ⟨u, rfl, rfl⟩)))).1
  · exact h.boundary i (mem_outstanding.2 (.inr (.inr (List.mem_cons_of_mem _ hi))))

/-- A variable that stays cuts off what is in front of it. -/
theorem Stands.keep {span : Span} {rest : List (Span × Bool)}
    (h : Stands source lo (outstanding kept? run? ((span, false) :: rest))) :
    Stands source span.stop (outstanding (some span.stop) none rest) := by
  refine ⟨inOrder_keep h.order, fun i hi => ?_⟩
  rcases mem_outstanding.1 hi with ⟨stop, hstop, rfl⟩ | ⟨r, hr, rfl⟩ | hi
  · obtain rfl := Option.mem_some.1 hstop
    have hspan := h.boundary (span, false) (mem_outstanding.2 (.inr (.inr (by simp))))
    exact ⟨hspan.2, hspan.2⟩
  · cases hr
  · exact h.boundary i (mem_outstanding.2 (.inr (.inr (List.mem_cons_of_mem _ hi))))

/-- Read from an offset in front of a variable that stays, the text begins with that variable. -/
private theorem rewritten_at_kept {i : Nat} {text : String}
    (hi : isBoundary source i = true) (hstart : isBoundary source d.node.span.start = true)
    (hle : i ≤ d.node.span.start) (hspan : d.node.span.start ≤ d.node.span.stop)
    (hrest : Stands source d.node.span.stop (outstanding (some d.node.span.stop) none (marked gone ds)))
    (htext : EditSet.rewrittenFrom? source d.node.span.stop
      ((runDeletions (some d.node.span.stop) none (marked gone ds)).map .delete) = some text) :
    EditSet.rewrittenFrom? source i ((runDeletions (some d.node.span.stop) none (marked gone ds)).map .delete) =
      some (slice source ⟨i, d.node.span.start⟩ ++ d.node.text source ++ text) := by
  have hstop : isBoundary source d.node.span.stop = true :=
    (hrest.boundary (.point d.node.span.stop, false) (by simp [outstanding])).1
  have hbehind : ∀ e ∈ (runDeletions (some d.node.span.stop) none (marked gone ds)).map Edit.delete,
      d.node.span.stop ≤ e.start := by
    intro e he
    obtain ⟨r, hr, rfl⟩ := List.mem_map.1 he
    exact ((inOrder_runDeletions hrest.order).of_mem hr).1
  rw [EditSet.rewrittenFrom?_of_le hi hstop (by omega) hrest.fits hbehind, htext, Option.map_some,
    ← slice_append_slice hle hspan hi hstart hstop]
  rfl

/-- Behind a variable that stays, the deletions leave what stays of the other variables, and the text behind them. The
run of variables that go, if there is one, is the text from there up to where the next variable is separated. -/
theorem rewritten_behind (h : Stands source lo (outstanding (some kept) run? (marked gone ds))) :
    EditSet.rewrittenFrom? source kept ((runDeletions (some kept) run? (marked gone ds)).map .delete) =
      some (keptBehind source gone ((run?.map (·.stop)).getD kept) ds ++
        slice source ⟨endBehind ((run?.map (·.stop)).getD kept) ds, source.utf8ByteSize⟩) := by
  induction ds generalizing lo kept run? with
  | nil =>
    have hkept : isBoundary source kept = true :=
      (h.boundary (.point kept, false) (by simp [outstanding])).1
    cases run? with
    | none =>
      simp only [marked, List.map_nil, runDeletions, keptBehind, endBehind]
      simpa using EditSet.rewrittenFrom?_nil hkept
    | some r =>
      have hr := (h.boundary (r, true) (by simp [outstanding])).2
      simp only [marked, List.map_nil, List.map_cons, runDeletions, keptBehind, endBehind]
      rw [EditSet.rewrittenFrom?_cons (e := .delete ⟨kept, r.stop⟩) hkept hkept (Nat.le_refl kept), Edit.stop_delete,
        EditSet.rewrittenFrom?_nil hr]
      simp [Edit.replacement, slice_point hkept]
  | cons d ds ih =>
    cases hd : d.goes gone with
    | true =>
      rw [marked_cons_of_goes hd] at h ⊢
      rw [runDeletions, ih h.join, keptBehind, if_pos hd, endBehind_cons]
      rfl
    | false =>
      rw [marked_cons_of_stays hd] at h ⊢
      have hspan := h.order.of_mem (s := d.node.span) (by simp [outstanding])
      have hstart := (h.boundary (d.node.span, false) (by simp [outstanding])).1
      have hkept : isBoundary source kept = true :=
        (h.boundary (.point kept, false) (by simp [outstanding])).1
      have htext := ih h.keep
      simp only [Option.map_none, Option.getD_none] at htext
      rw [endBehind_cons, keptBehind, if_neg (by simp [hd])]
      cases run? with
      | none =>
        have hle : kept ≤ d.node.span.start := by
          have := h.order
          simp [outstanding, Span.InOrder, Span.point] at this
          omega
        rw [runDeletions, rewritten_at_kept hkept hstart hle hspan.2.1 h.keep htext]
        simp [String.append_assoc]
      | some r =>
        have hr := (h.boundary (r, true) (by simp [outstanding])).2
        have hle : r.stop ≤ d.node.span.start := by
          have := h.order
          simp [outstanding, Span.InOrder, Span.point] at this
          omega
        rw [runDeletions, List.map_cons,
          EditSet.rewrittenFrom?_cons (e := .delete ⟨kept, r.stop⟩) hkept hkept (Nat.le_refl kept), Edit.stop_delete,
          rewritten_at_kept hr hstart hle hspan.2.1 h.keep htext]
        simp [Edit.replacement, slice_point hkept, String.append_assoc]

/-- The first variable that stays takes the place of all that go in front of it. -/
theorem rewritten_from_start {front stop : Nat} (h : Stands source lo (outstanding none run? (marked gone ds)))
    (hstays : ∃ d ∈ ds, d.goes gone = false)
    (hfront : (run?.or (ds.head?.map (·.node.span))).map (·.start) = some front) :
    EditSet.rewrittenFrom? source 0 ((runDeletions none run? (marked gone ds)).map .delete) =
      some (slice source ⟨0, front⟩ ++ keptText source gone ds ++
        slice source ⟨endBehind stop ds, source.utf8ByteSize⟩) := by
  have hzero := isBoundary_zero source
  induction ds generalizing lo run? stop with
  | nil => simp at hstays
  | cons d ds ih =>
    rw [endBehind_cons]
    cases hd : d.goes gone with
    | true =>
      rw [marked_cons_of_goes hd] at h ⊢
      have hstays' : ∃ c ∈ ds, c.goes gone = false := by simpa [hd] using hstays
      have hfront' : (run?.getD d.node.span).start = front := by cases run? <;> simpa using hfront
      rw [runDeletions, ih h.join hstays' (by simp [hfront']), keptText, if_pos hd]
    | false =>
      rw [marked_cons_of_stays hd] at h ⊢
      have hspan := h.order.of_mem (s := d.node.span) (by simp [outstanding])
      have hstart := (h.boundary (d.node.span, false) (by simp [outstanding])).1
      have htext := rewritten_behind h.keep
      simp only [Option.map_none, Option.getD_none] at htext
      rw [keptText, if_neg (by simp [hd])]
      cases run? with
      | none =>
        obtain rfl : d.node.span.start = front := by simpa using hfront
        rw [runDeletions, rewritten_at_kept hzero hstart (Nat.zero_le _) hspan.2.1 h.keep htext]
        simp [String.append_assoc]
      | some r =>
        obtain rfl : r.start = front := by simpa using hfront
        have hr := (h.boundary (r, true) (by simp [outstanding])).1
        rw [runDeletions, List.map_cons,
          EditSet.rewrittenFrom?_cons (e := .delete ⟨r.start, d.node.span.start⟩) hzero hr (Nat.zero_le _),
          Edit.stop_delete, rewritten_at_kept hstart hstart (Nat.le_refl _) hspan.2.1 h.keep htext]
        simp [Edit.replacement, slice_point hstart, String.append_assoc]

/-! ### One deletion for each run -/

private theorem runs_of_goes (hblock : ∀ d ∈ block, d.goes gone = true) (hne : block ≠ []) :
    runs gone block = [block] := by
  rw [runs, List.splitOnP_eq_singleton (by simpa using hblock)]
  simp [hne]

private theorem runs_of_stays (hblock : ∀ d ∈ block, d.goes gone = true) (hd : d.goes gone = false) :
    runs gone (block ++ d :: ds) = [block].filter (!·.isEmpty) ++ runs gone ds := by
  rw [runs, List.splitOnP_append_cons_of_forall_mem (by simpa using hblock) d (by simp [hd]), runs,
    ← List.filter_append]
  rfl

/-- The deletions take one run each, in order. `run?` is the span of the variables of `block`, which go, and is there
if there are any. -/
theorem forall₂_behind {hi : Nat} (h : Span.InOrder hi lo ((outstanding kept? run? (marked gone ds)).map (·.1)))
    (hleft : kept?.isSome = true ∨ ∃ d ∈ ds, d.goes gone = false) (hblock : ∀ d ∈ block, d.goes gone = true)
    (hrun : run? = none ↔ block = []) (hcovers : ∀ r ∈ run?, ∀ d ∈ block, r.covers d.node.span = true) :
    List.Forall₂ (fun run r => ∀ d ∈ run, r.covers d.node.span = true) (runs gone (block ++ ds))
      (runDeletions kept? run? (marked gone ds)) := by
  induction ds generalizing lo kept? run? block with
  | nil =>
    rw [List.append_nil]
    cases run? with
    | none => simp [hrun.1 rfl, runs, marked, runDeletions]
    | some r =>
      have hne : block ≠ [] := by
        rw [ne_eq, ← hrun]
        simp
      obtain ⟨stop, rfl⟩ : ∃ stop, kept? = some stop := Option.isSome_iff_exists.1 (by simpa using hleft)
      have hstop : stop ≤ r.start := by
        simp [outstanding, Span.InOrder, Span.point, marked] at h
        omega
      rw [runs_of_goes hblock hne]
      refine .cons (fun d hd => ?_) .nil
      have := Span.covers_iff.1 (hcovers r rfl d hd)
      exact Span.covers_iff.2 ⟨Nat.le_trans hstop this.1, this.2⟩
  | cons d ds ih =>
    cases hd : d.goes gone with
    | true =>
      rw [marked_cons_of_goes hd] at h ⊢
      rw [runDeletions, List.append_cons block d ds]
      refine ih (inOrder_join h) (by simpa [hd] using hleft) ?_ (by simp) ?_
      · intro c hc
        rcases List.mem_append.1 hc with hc | hc
        · exact hblock c hc
        · rw [List.mem_singleton.1 hc, hd]
      · intro r hr c hc
        obtain rfl := Option.mem_some.1 hr
        rw [Span.covers_iff]
        rcases List.mem_append.1 hc with hc | hc
        · -- the run has bytes only up to the variable
          obtain ⟨u, rfl⟩ : ∃ u, run? = some u := by
            rw [← Option.ne_none_iff_exists', ne_eq, hrun]
            exact List.ne_nil_of_mem hc
          have hu := Span.covers_iff.1 (hcovers u rfl c hc)
          have : u.stop ≤ d.node.span.stop := by
            cases kept? <;> simp [outstanding, Span.InOrder, Span.point] at h <;> omega
          exact ⟨hu.1, Nat.le_trans hu.2 this⟩
        · obtain rfl := List.mem_singleton.1 hc
          refine ⟨?_, Nat.le_refl _⟩
          cases kept? <;> cases run? <;> simp [outstanding, Span.InOrder, Span.point] at h ⊢ <;> omega
    | false =>
      rw [marked_cons_of_stays hd] at h ⊢
      rw [runs_of_stays hblock hd]
      have hnone : ∀ c ∈ ([] : List Declarator), c.goes gone = true := by simp
      have hrest := ih (inOrder_keep h) (.inl rfl) hnone (by simp) (by simp)
      rw [List.nil_append] at hrest
      cases run? with
      | none =>
        rw [hrun.1 rfl, runDeletions]
        exact hrest
      | some r =>
        have hne : block ≠ [] := by
          rw [ne_eq, ← hrun]
          simp
        rw [List.filter_cons_of_pos (by simpa using hne), List.filter_nil]
        cases kept? with
        | none =>
          have hstart : r.stop ≤ d.node.span.start := by
            simp [outstanding, Span.InOrder] at h
            omega
          refine .cons (fun c hc => ?_) hrest
          have := Span.covers_iff.1 (hcovers r rfl c hc)
          exact Span.covers_iff.2 ⟨this.1, Nat.le_trans this.2 hstart⟩
        | some stop =>
          have hstop : stop ≤ r.start := by
            simp [outstanding, Span.InOrder, Span.point] at h
            omega
          refine .cons (fun c hc => ?_) hrest
          have := Span.covers_iff.1 (hcovers r rfl c hc)
          exact Span.covers_iff.2 ⟨Nat.le_trans hstop this.1, this.2⟩

/-! ### Variables of a statement -/

/-- Variables in order stand between the start of the first and the end of the last one. -/
private theorem inOrder_of_pairwise {first last : Declarator}
    (hordered : ds.Pairwise fun a b => a.node.span.stop ≤ b.node.span.start)
    (hspan : ∀ d ∈ ds, d.node.span.start ≤ d.node.span.stop) (hfirst : ds.head? = some first)
    (hlast : ds.getLast? = some last) :
    Span.InOrder last.node.span.stop first.node.span.start (ds.map (·.node.span)) := by
  induction ds generalizing first with
  | nil => simp at hfirst
  | cons d ds ih =>
    obtain rfl : d = first := by simpa using hfirst
    obtain ⟨hbehind, hordered⟩ := List.pairwise_cons.1 hordered
    refine ⟨Nat.le_refl _, hspan d (by simp), ?_⟩
    cases ds with
    | nil =>
      obtain rfl : d = last := by simpa using hlast
      exact Nat.le_refl _
    | cons c ds =>
      have hrest := ih hordered (fun e he => hspan e (by simp [he])) rfl (by simpa using hlast)
      exact hrest.mono (hbehind c (by simp))

/-- The deletions that take some but not all variables out of a statement leave the others as they are, in order, each
but the first behind the text between it and the variable in front of it. The deletions stand in order between the
start of the first variable and the end of the last one, one for each run of variables that go, and share nothing with
a variable that stays. -/
theorem declaratorDeletions_leave_rest {first last : Declarator}
    (hordered : ds.Pairwise fun a b => a.node.span.stop ≤ b.node.span.start)
    (htext : ∀ d ∈ ds, (slice? source d.node.span).isSome = true) (hstays : ∃ d ∈ ds, d.goes gone = false)
    (hfirst : ds.head? = some first) (hlast : ds.getLast? = some last) :
    EditSet.apply ⟨declaratorDeletions gone ds, 0⟩ source =
        .ok (slice source ⟨0, first.node.span.start⟩ ++ keptText source gone ds ++
          slice source ⟨last.node.span.stop, source.utf8ByteSize⟩) ∧
      Span.InOrder last.node.span.stop first.node.span.start ((declaratorDeletions gone ds).map (·.span)) ∧
      List.Forall₂ (fun run e => e.isDelete = true ∧ ∀ d ∈ run, e.span.covers d.node.span = true) (runs gone ds)
        (declaratorDeletions gone ds) ∧
      ∀ e ∈ declaratorDeletions gone ds, ∀ d ∈ ds, d.goes gone = false → e.span.Apart d.node.span := by
  have hends : ∀ d ∈ ds, d.node.span.start ≤ d.node.span.stop ∧ isBoundary source d.node.span.start = true ∧
      isBoundary source d.node.span.stop = true := by
    intro d hd
    obtain ⟨t, ht⟩ := Option.isSome_iff_exists.1 (htext d hd)
    exact ends_of_slice? ht
  have horder : Span.InOrder last.node.span.stop first.node.span.start
      ((outstanding none none (marked gone ds)).map (·.1)) := by
    simpa [outstanding, marked, Function.comp_def] using
      inOrder_of_pairwise hordered (fun d hd => (hends d hd).1) hfirst hlast
  have hstands : Stands source first.node.span.start (outstanding none none (marked gone ds)) := by
    refine ⟨horder.mono_right (le_of_isBoundary (hends last (List.mem_of_getLast? hlast)).2.2), fun i hi => ?_⟩
    obtain ⟨d, hd, rfl⟩ : ∃ d ∈ ds, (d.node.span, d.goes gone) = i := by simpa [outstanding, marked] using hi
    exact (hends d hd).2
  have hdeletions : Span.InOrder last.node.span.stop first.node.span.start
      ((declaratorDeletions gone ds).map (·.span)) := by
    rw [declaratorDeletions_eq, List.map_map]
    simpa [Function.comp_def] using inOrder_runDeletions horder
  refine ⟨?_, ?_, ?_, ?_⟩
  · obtain ⟨text, hread, happly⟩ := EditSet.exists_rewritten ⟨declaratorDeletions gone ds, 0⟩ hstands.fits
      (List.pairwise_map.1 hdeletions.pairwise)
    rw [happly]
    have hread' : EditSet.rewrittenFrom? source 0 ((runDeletions none none (marked gone ds)).map .delete) =
        some (slice source ⟨0, first.node.span.start⟩ ++ keptText source gone ds ++
          slice source ⟨endBehind 0 ds, source.utf8ByteSize⟩) :=
      rewritten_from_start hstands hstays (by simp [hfirst])
    rw [← declaratorDeletions_eq, hread, Option.some.injEq] at hread'
    rw [hread', endBehind, hlast]
    rfl
  · exact hdeletions
  · rw [declaratorDeletions_eq, List.forall₂_map_right_iff]
    have hnone : ∀ c ∈ ([] : List Declarator), c.goes gone = true := by simp
    have hruns := forall₂_behind horder (.inr hstays) hnone (by simp) (by simp)
    exact hruns.imp fun run r hr => ⟨rfl, hr⟩
  · intro e he d hd hkeep
    obtain ⟨r, hr, rfl⟩ := List.mem_map.1 he
    have hd' : (d.node.span, d.goes gone) ∈ outstanding none none (marked gone ds) := by
      simpa [outstanding, marked] using ⟨d, hd, rfl, rfl⟩
    rcases respects_of_mem_runDeletions horder hr _ hd' with ⟨hmarked, -⟩ | hapart
    · simp [hkeep] at hmarked
    · exact hapart

/-- The first, the third and the fourth of five variables go. -/
theorem declaratorDeletions_leave_second_and_last :
    let ds := [declaratorAt 4 5 0, declaratorAt 7 12 1, declaratorAt 14 15 2, declaratorAt 17 18 3,
      declaratorAt 20 25 4]
    runs [0, 2, 3] ds = [[declaratorAt 4 5 0], [declaratorAt 14 15 2, declaratorAt 17 18 3]] ∧
      EditSet.apply ⟨declaratorDeletions [0, 2, 3] ds, 0⟩ "let a, b = 2, c, d, e = 5;" = .ok "let b = 2, e = 5;" := by
  intro ds
  obtain ⟨happly, -⟩ :=
    @declaratorDeletions_leave_rest "let a, b = 2, c, d, e = 5;" [0, 2, 3] ds (declaratorAt 4 5 0)
      (declaratorAt 20 25 4) (by simp [ds, declaratorAt, Node.span, Node.label]) (by decide +kernel)
      (by simp [ds, declaratorAt, Declarator.goes]) rfl rfl
  refine ⟨rfl, happly.trans ?_⟩
  decide +kernel

end UnusedVariables

end ScriptTidy
