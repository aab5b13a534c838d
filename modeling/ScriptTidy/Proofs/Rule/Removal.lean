import ScriptTidy.Rule.UnusedVariables
import ScriptTidy.Proofs.Syntax.Nesting

/-!
# What goes, and what is deleted for it

Two parts of the rule on unused variables know nothing of syntax. One finds the bindings that go: whatever the passes
have let go so far is justified, every use of it standing inside a declarator that goes as well (`removed_spec`). The
other takes marked spans out of a list: the deletions stand in order (`inOrder_runDeletions`), touch no unmarked span
and cut through no marked one (`respects_of_mem_runDeletions`), start and stop where spans do
(`isEnd_of_mem_runDeletions`), and with an unmarked span to hold on to, they take every marked one
(`covered_by_runDeletions`).
-/

namespace ScriptTidy

/-! ### Spans in order -/

/-- The spans follow each other between two offsets. -/
def Span.InOrder (hi : Nat) : Nat → List Span → Prop
  | lo, [] => lo ≤ hi
  | lo, s :: rest => lo ≤ s.start ∧ s.start ≤ s.stop ∧ InOrder hi s.stop rest

namespace Span.InOrder

variable {lo hi : Nat} {spans : List Span}

theorem le (h : InOrder hi lo spans) : lo ≤ hi := by
  induction spans generalizing lo with
  | nil => exact h
  | cons s rest ih =>
    have := ih h.2.2
    have := h.1
    have := h.2.1
    omega

theorem mono (h : InOrder hi lo spans) {lo' : Nat} (hle : lo' ≤ lo) : InOrder hi lo' spans := by
  cases spans with
  | nil => exact Nat.le_trans hle h
  | cons s rest => exact ⟨Nat.le_trans hle h.1, h.2⟩

theorem mono_right (h : InOrder hi lo spans) {hi' : Nat} (hle : hi ≤ hi') : InOrder hi' lo spans := by
  induction spans generalizing lo with
  | nil => exact Nat.le_trans h hle
  | cons s rest ih => exact ⟨h.1, h.2.1, ih h.2.2⟩

theorem of_mem (h : InOrder hi lo spans) {s : Span} (hs : s ∈ spans) :
    lo ≤ s.start ∧ s.start ≤ s.stop ∧ s.stop ≤ hi := by
  induction spans generalizing lo with
  | nil => cases hs
  | cons t rest ih =>
    obtain ⟨h₁, h₂, h₃⟩ := h
    rcases List.mem_cons.1 hs with rfl | hs
    · exact ⟨h₁, h₂, h₃.le⟩
    · have := ih h₃ hs
      omega

theorem pairwise (h : InOrder hi lo spans) : spans.Pairwise fun s t => s.stop ≤ t.start := by
  induction spans generalizing lo with
  | nil => exact .nil
  | cons s rest ih => exact .cons (fun t ht => (h.2.2.of_mem ht).1) (ih h.2.2)

theorem eq_or_apart (h : InOrder hi lo spans) {s t : Span} (hs : s ∈ spans) (ht : t ∈ spans) :
    s = t ∨ s.Apart t := by
  induction spans generalizing lo with
  | nil => cases hs
  | cons u rest ih =>
    obtain ⟨-, -, h₃⟩ := h
    rcases List.mem_cons.1 hs with rfl | hs' <;> rcases List.mem_cons.1 ht with rfl | ht'
    · exact .inl rfl
    · exact .inr (.inl (h₃.of_mem ht').1)
    · exact .inr (.inr (h₃.of_mem hs').1)
    · exact ih h₃ hs' ht'

/-- Nodes in order have their spans in order. -/
theorem of_pairwise {ns : List Node} (hpair : ns.Pairwise fun a b => a.span.stop ≤ b.span.start) (hle : lo ≤ hi)
    (hmem : ∀ n ∈ ns, lo ≤ n.span.start ∧ n.span.start ≤ n.span.stop ∧ n.span.stop ≤ hi) :
    InOrder hi lo (ns.map Node.span) := by
  induction ns generalizing lo with
  | nil => exact hle
  | cons n ns ih =>
    obtain ⟨hfirst, hpair⟩ := List.pairwise_cons.1 hpair
    obtain ⟨h₁, h₂, h₃⟩ := hmem n List.mem_cons_self
    refine ⟨h₁, h₂, ih hpair h₃ fun m hm => ?_⟩
    have := hmem m (List.mem_cons_of_mem n hm)
    have := hfirst m hm
    omega

end Span.InOrder

namespace UnusedVariables

/-! ### Deletions of runs -/

/-- What a step of `runDeletions` has before it: the end of the last unmarked span, as an unmarked point, the run of
marked spans behind it, as one, and the rest of the list. -/
def outstanding (kept : Option Nat) (run : Option Span) (items : List (Span × Bool)) : List (Span × Bool) :=
  (kept.map fun stop => (.point stop, false)).toList ++ (run.map fun r => (r, true)).toList ++ items

/-- A deletion takes a marked span as a whole or not at all, and takes nothing of an unmarked one. -/
def Respects (r : Span) (i : Span × Bool) : Prop := i.2 = true ∧ r.covers i.1 = true ∨ r.Apart i.1

section Runs

variable {lo hi : Nat} {kept : Option Nat} {run : Option Span} {items rest : List (Span × Bool)} {span : Span}

theorem mem_outstanding {i : Span × Bool} : i ∈ outstanding kept run items ↔
    (∃ stop ∈ kept, i = (.point stop, false)) ∨ (∃ r ∈ run, i = (r, true)) ∨ i ∈ items := by
  cases kept <;> cases run <;> simp [outstanding]

theorem inOrder_join (h : Span.InOrder hi lo ((outstanding kept run ((span, true) :: rest)).map (·.1))) :
    Span.InOrder hi lo ((outstanding kept (some ⟨(run.getD span).start, span.stop⟩) rest).map (·.1)) := by
  cases kept <;> cases run <;> simp_all [outstanding, Span.InOrder, Span.point] <;> omega

theorem inOrder_keep (h : Span.InOrder hi lo ((outstanding kept run ((span, false) :: rest)).map (·.1))) :
    Span.InOrder hi span.stop ((outstanding (some span.stop) none rest).map (·.1)) := by
  cases kept <;> cases run <;> simp_all [outstanding, Span.InOrder, Span.point]

/-- The deletions stand in order, between the offsets between which the spans stand. -/
theorem inOrder_runDeletions (h : Span.InOrder hi lo ((outstanding kept run items).map (·.1))) :
    Span.InOrder hi lo (runDeletions kept run items) := by
  fun_induction runDeletions kept run items generalizing lo with
  | case1 r stop =>
    simp [outstanding, Span.InOrder, Span.point] at h ⊢
    omega
  | case2 => exact h.le
  | case3 kept run span rest ih => exact ih (inOrder_join h)
  | case4 span rest r stop ih =>
    have hrest := ih (inOrder_keep h)
    simp [outstanding, Span.InOrder, Span.point] at h ⊢
    exact ⟨h.1, by omega, hrest.mono (by omega)⟩
  | case5 span rest r ih =>
    have hrest := ih (inOrder_keep h)
    simp [outstanding, Span.InOrder] at h ⊢
    exact ⟨h.1, by omega, hrest.mono (by omega)⟩
  | case6 kept span rest ih =>
    have hspan := h.of_mem (s := span) (by simp [outstanding])
    exact (ih (inOrder_keep h)).mono (by omega)

/-- The run stands in front of the rest of the list. -/
private theorem run_before {b : Bool} (h : Span.InOrder hi lo ((outstanding kept run ((span, b) :: rest)).map (·.1))) :
    (run.getD span).start ≤ span.start ∧ span.start ≤ span.stop ∧ (∀ r ∈ run, r.stop ≤ span.start) ∧
      ∀ i ∈ rest, span.stop ≤ i.1.start := by
  have hrest : Span.InOrder hi span.stop (rest.map (·.1)) := by
    cases kept <;> cases run <;> simp_all [outstanding, Span.InOrder]
  rw [← and_assoc, ← and_assoc]
  refine ⟨?_, fun i hi => (hrest.of_mem (List.mem_map_of_mem hi)).1⟩
  cases kept <;> cases run <;> simp [outstanding, Span.InOrder, Span.point] at h ⊢ <;> omega

/-- What is joined to the run lies inside of it. -/
private theorem mem_join (h : Span.InOrder hi lo ((outstanding kept run ((span, true) :: rest)).map (·.1)))
    {i : Span × Bool} (hmem : i ∈ outstanding kept run ((span, true) :: rest)) :
    i ∈ outstanding kept (some ⟨(run.getD span).start, span.stop⟩) rest ∨
      i.2 = true ∧ Span.covers ⟨(run.getD span).start, span.stop⟩ i.1 = true := by
  obtain ⟨hstart, hspan, hrun, -⟩ := run_before h
  rcases mem_outstanding.1 hmem with hkept | ⟨r, hr, rfl⟩ | hmem
  · exact .inl (mem_outstanding.2 (.inl hkept))
  · have hstop := hrun r hr
    obtain rfl := hr
    exact .inr ⟨rfl, Span.covers_iff.2 ⟨Nat.le_refl _, Nat.le_trans hstop hspan⟩⟩
  · rcases List.mem_cons.1 hmem with rfl | hmem
    · exact .inr ⟨rfl, Span.covers_iff.2 ⟨hstart, Nat.le_refl _⟩⟩
    · exact .inl (mem_outstanding.2 (.inr (.inr hmem)))

private theorem joined_mem (joined : Span) : (joined, true) ∈ outstanding kept (some joined) rest :=
  mem_outstanding.2 (.inr (.inl ⟨_, rfl, rfl⟩))

/-- What stands in front of an unmarked span stops where that span stops or before. -/
private theorem stop_le_of_front (h : Span.InOrder hi lo ((outstanding kept run ((span, false) :: rest)).map (·.1)))
    {i : Span × Bool} (hmem : i ∈ outstanding kept run ((span, false) :: rest)) : i.1.stop ≤ span.stop ∨ i ∈ rest := by
  obtain ⟨-, hspan, hrun, -⟩ := run_before h
  rcases mem_outstanding.1 hmem with ⟨stop, rfl, rfl⟩ | ⟨r, hr, rfl⟩ | hmem
  · left
    cases run <;> simp [outstanding, Span.InOrder, Span.point] at h ⊢ <;> omega
  · left
    have := hrun r hr
    simp only
    omega
  · rcases List.mem_cons.1 hmem with rfl | hmem
    · exact .inl (Nat.le_refl _)
    · exact .inr hmem

/-- A deletion behind an unmarked span takes nothing of what is in front. -/
private theorem respects_of_behind
    (h : Span.InOrder hi lo ((outstanding kept run ((span, false) :: rest)).map (·.1))) {r : Span}
    (hr : r ∈ runDeletions (some span.stop) none rest)
    (hrest : ∀ i ∈ outstanding (some span.stop) none rest, Respects r i) :
    ∀ i ∈ outstanding kept run ((span, false) :: rest), Respects r i := by
  intro i hmem
  rcases stop_le_of_front h hmem with hstop | hmem
  · have hstart := ((inOrder_runDeletions (inOrder_keep h)).of_mem hr).1
    exact .inr (.inr (by omega))
  · exact hrest i (mem_outstanding.2 (.inr (.inr hmem)))

/-- A deletion that takes the run and nothing of the list behind it. -/
private theorem respects_of_run {b : Bool} {u r : Span}
    (h : Span.InOrder hi lo ((outstanding kept (some u) ((span, b) :: rest)).map (·.1)))
    (hkept : ∀ stop ∈ kept, stop ≤ r.start) (hcovers : r.covers u = true) (hstop : r.stop ≤ span.start) :
    ∀ i ∈ outstanding kept (some u) ((span, b) :: rest), Respects r i := by
  obtain ⟨-, hspan, -, hrest⟩ := run_before h
  intro i hmem
  rcases mem_outstanding.1 hmem with ⟨stop, hstop, rfl⟩ | ⟨_, ⟨⟩, rfl⟩ | hmem
  · exact .inr (.inr (hkept stop hstop))
  · exact .inl ⟨rfl, hcovers⟩
  · rcases List.mem_cons.1 hmem with rfl | hmem
    · exact .inr (.inl hstop)
    · exact .inr (.inl (by have := hrest i hmem; omega))

theorem respects_of_mem_runDeletions (h : Span.InOrder hi lo ((outstanding kept run items).map (·.1))) {r : Span}
    (hr : r ∈ runDeletions kept run items) : ∀ i ∈ outstanding kept run items, Respects r i := by
  fun_induction runDeletions kept run items generalizing lo with
  | case1 u stop =>
    obtain rfl := List.mem_singleton.1 hr
    simp [outstanding, Span.InOrder, Span.point] at h
    intro i hmem
    rcases mem_outstanding.1 hmem with ⟨_, ⟨⟩, rfl⟩ | ⟨_, ⟨⟩, rfl⟩ | hmem
    · exact .inr (.inr (Nat.le_refl _))
    · exact .inl ⟨rfl, Span.covers_iff.2 ⟨h.2.1, Nat.le_refl _⟩⟩
    · cases hmem
  | case2 => cases hr
  | case3 kept run span rest ih =>
    have hrest := ih (inOrder_join h) hr
    intro i hmem
    rcases mem_join h hmem with hmem | ⟨hmarked, hcovers⟩
    · exact hrest i hmem
    · rcases hrest _ (joined_mem _) with hr | hr
      · exact .inl ⟨hmarked, Span.covers_trans hr.2 hcovers⟩
      · exact .inr (hr.of_covers (Span.covers_self _) hcovers)
  | case4 span rest u stop ih =>
    rcases List.mem_cons.1 hr with rfl | hr
    · have hstop : stop ≤ u.start := by simp [outstanding, Span.InOrder, Span.point] at h; omega
      exact respects_of_run h (by simp) (Span.covers_iff.2 ⟨hstop, Nat.le_refl _⟩) ((run_before h).2.2.1 u rfl)
    · exact respects_of_behind h hr (ih (inOrder_keep h) hr)
  | case5 span rest u ih =>
    rcases List.mem_cons.1 hr with rfl | hr
    · have hstop := (run_before h).2.2.1 u rfl
      exact respects_of_run h (by simp) (Span.covers_iff.2 ⟨Nat.le_refl _, hstop⟩) (Nat.le_refl _)
    · exact respects_of_behind h hr (ih (inOrder_keep h) hr)
  | case6 kept span rest ih => exact respects_of_behind h hr (ih (inOrder_keep h) hr)

/-- A marked span in front of an unmarked one is the run. -/
private theorem marked_behind {i : Span × Bool} (hmem : i ∈ outstanding kept run ((span, false) :: rest))
    (hmarked : i.2 = true) : (∃ r ∈ run, i = (r, true)) ∨ i ∈ outstanding (some span.stop) none rest := by
  rcases mem_outstanding.1 hmem with ⟨_, -, rfl⟩ | hrun | hmem
  · cases hmarked
  · exact .inl hrun
  · rcases List.mem_cons.1 hmem with rfl | hmem
    · cases hmarked
    · exact .inr (mem_outstanding.2 (.inr (.inr hmem)))

/-- Where an unmarked span is left, every marked one is deleted. -/
theorem covered_by_runDeletions (h : Span.InOrder hi lo ((outstanding kept run items).map (·.1)))
    (hleft : kept.isSome = true ∨ ∃ i ∈ items, i.2 = false) :
    ∀ i ∈ outstanding kept run items, i.2 = true → ∃ r ∈ runDeletions kept run items, r.covers i.1 = true := by
  fun_induction runDeletions kept run items generalizing lo with
  | case1 u stop =>
    simp [outstanding, Span.InOrder, Span.point] at h
    intro i hmem hmarked
    rcases mem_outstanding.1 hmem with ⟨_, -, rfl⟩ | ⟨_, ⟨⟩, rfl⟩ | hmem
    · cases hmarked
    · exact ⟨_, List.mem_singleton_self _, Span.covers_iff.2 ⟨h.2.1, Nat.le_refl _⟩⟩
    · cases hmem
  | case2 kept run hnot =>
    intro i hmem hmarked
    rcases mem_outstanding.1 hmem with ⟨_, -, rfl⟩ | ⟨u, rfl, rfl⟩ | hmem
    · cases hmarked
    · rcases hleft with hsome | ⟨_, hnil, -⟩
      · obtain ⟨stop, rfl⟩ := Option.isSome_iff_exists.1 hsome
        exact absurd rfl (hnot u stop rfl)
      · cases hnil
    · cases hmem
  | case3 kept run span rest ih =>
    have hleft' : kept.isSome = true ∨ ∃ i ∈ rest, i.2 = false := by simpa using hleft
    have hrest := ih (inOrder_join h) hleft'
    intro i hmem hmarked
    rcases mem_join h hmem with hmem | ⟨-, hcovers⟩
    · exact hrest i hmem hmarked
    · obtain ⟨r, hr, hjoined⟩ := hrest _ (joined_mem _) rfl
      exact ⟨r, hr, Span.covers_trans hjoined hcovers⟩
  | case4 span rest u stop ih =>
    have hstop : stop ≤ u.start := by simp [outstanding, Span.InOrder, Span.point] at h; omega
    intro i hmem hmarked
    rcases marked_behind hmem hmarked with ⟨_, ⟨⟩, rfl⟩ | hmem
    · exact ⟨_, List.mem_cons_self, Span.covers_iff.2 ⟨hstop, Nat.le_refl _⟩⟩
    · obtain ⟨r, hr, hcovers⟩ := ih (inOrder_keep h) (.inl rfl) i hmem hmarked
      exact ⟨r, List.mem_cons_of_mem _ hr, hcovers⟩
  | case5 span rest u ih =>
    have hstop := (run_before h).2.2.1 u rfl
    intro i hmem hmarked
    rcases marked_behind hmem hmarked with ⟨_, ⟨⟩, rfl⟩ | hmem
    · exact ⟨_, List.mem_cons_self, Span.covers_iff.2 ⟨Nat.le_refl _, hstop⟩⟩
    · obtain ⟨r, hr, hcovers⟩ := ih (inOrder_keep h) (.inl rfl) i hmem hmarked
      exact ⟨r, List.mem_cons_of_mem _ hr, hcovers⟩
  | case6 kept span rest ih =>
    intro i hmem hmarked
    rcases marked_behind hmem hmarked with ⟨_, ⟨⟩, -⟩ | hmem
    exact ih (inOrder_keep h) (.inl rfl) i hmem hmarked

/-- Where a span is marked and one is not, something is deleted. -/
theorem runDeletions_ne_nil (hleft : kept.isSome = true ∨ ∃ i ∈ items, i.2 = false)
    (hmarked : run.isSome = true ∨ ∃ i ∈ items, i.2 = true) : runDeletions kept run items ≠ [] := by
  fun_induction runDeletions kept run items with
  | case1 u stop => simp
  | case2 kept run hnot =>
    simp only [List.not_mem_nil, false_and, exists_false, or_false] at hleft hmarked
    obtain ⟨stop, rfl⟩ := Option.isSome_iff_exists.1 hleft
    obtain ⟨u, rfl⟩ := Option.isSome_iff_exists.1 hmarked
    exact absurd rfl (hnot u stop rfl)
  | case3 kept run span rest ih => exact ih (by simpa using hleft) (.inl rfl)
  | case4 span rest u stop ih => exact List.cons_ne_nil _ _
  | case5 span rest u ih => exact List.cons_ne_nil _ _
  | case6 kept span rest ih => exact ih (.inl rfl) (by simpa using hmarked)

/-- The offset is an end of one of the spans. -/
def IsEnd (items : List (Span × Bool)) (offset : Nat) : Prop := ∃ i ∈ items, offset = i.1.start ∨ offset = i.1.stop

private theorem IsEnd.of_join {offset : Nat}
    (h : IsEnd (outstanding kept (some ⟨(run.getD span).start, span.stop⟩) rest) offset) :
    IsEnd (outstanding kept run ((span, true) :: rest)) offset := by
  have hspan : (span, true) ∈ outstanding kept run ((span, true) :: rest) :=
    mem_outstanding.2 (.inr (.inr List.mem_cons_self))
  obtain ⟨i, hi, hend⟩ := h
  rcases mem_outstanding.1 hi with hkept | ⟨_, ⟨⟩, rfl⟩ | hi
  · exact ⟨i, mem_outstanding.2 (.inl hkept), hend⟩
  · -- the joined run starts with the run and stops with the span
    rcases hend with hstart | hstop
    · cases run with
      | none => exact ⟨_, hspan, .inl hstart⟩
      | some r => exact ⟨(r, true), mem_outstanding.2 (.inr (.inl ⟨r, rfl, rfl⟩)), .inl hstart⟩
    · exact ⟨_, hspan, .inr hstop⟩
  · exact ⟨i, mem_outstanding.2 (.inr (.inr (List.mem_cons_of_mem _ hi))), hend⟩

private theorem IsEnd.of_keep {offset : Nat} (h : IsEnd (outstanding (some span.stop) none rest) offset) :
    IsEnd (outstanding kept run ((span, false) :: rest)) offset := by
  obtain ⟨i, hi, hend⟩ := h
  rcases mem_outstanding.1 hi with ⟨_, ⟨⟩, rfl⟩ | ⟨_, ⟨⟩, -⟩ | hi
  · exact ⟨(span, false), mem_outstanding.2 (.inr (.inr List.mem_cons_self)), .inr (hend.elim id id)⟩
  · exact ⟨i, mem_outstanding.2 (.inr (.inr (List.mem_cons_of_mem _ hi))), hend⟩

/-- A deletion starts and stops at ends of the spans. -/
theorem isEnd_of_mem_runDeletions {r : Span} (hr : r ∈ runDeletions kept run items) :
    IsEnd (outstanding kept run items) r.start ∧ IsEnd (outstanding kept run items) r.stop := by
  have hkept : ∀ {stop : Nat} {run : Option Span} {items : List (Span × Bool)},
      IsEnd (outstanding (some stop) run items) stop :=
    fun {stop} => ⟨(.point stop, false), mem_outstanding.2 (.inl ⟨stop, rfl, rfl⟩), .inl rfl⟩
  have hrun : ∀ {u : Span} {kept : Option Nat} {items : List (Span × Bool)},
      (u, true) ∈ outstanding kept (some u) items :=
    fun {u} => mem_outstanding.2 (.inr (.inl ⟨u, rfl, rfl⟩))
  fun_induction runDeletions kept run items with
  | case1 u stop =>
    obtain rfl := List.mem_singleton.1 hr
    exact ⟨hkept, _, hrun, .inr rfl⟩
  | case2 => cases hr
  | case3 kept run span rest ih =>
    obtain ⟨hstart, hstop⟩ := ih hr
    exact ⟨hstart.of_join, hstop.of_join⟩
  | case4 span rest u stop ih =>
    rcases List.mem_cons.1 hr with rfl | hr
    · exact ⟨hkept, _, hrun, .inr rfl⟩
    · obtain ⟨hstart, hstop⟩ := ih hr
      exact ⟨hstart.of_keep, hstop.of_keep⟩
  | case5 span rest u ih =>
    rcases List.mem_cons.1 hr with rfl | hr
    · exact ⟨⟨_, hrun, .inl rfl⟩, _, mem_outstanding.2 (.inr (.inr List.mem_cons_self)), .inl rfl⟩
    · obtain ⟨hstart, hstop⟩ := ih hr
      exact ⟨hstart.of_keep, hstop.of_keep⟩
  | case6 kept span rest ih =>
    obtain ⟨hstart, hstop⟩ := ih hr
    exact ⟨hstart.of_keep, hstop.of_keep⟩

end Runs

/-! ### The bindings that go -/

namespace Removal

/-- What goes has a reason to go: every span that goes is that of a candidate whose binding goes, and every use of a
binding that goes stands inside a span that goes. -/
structure Justified (uses : Nat → List Reference) (all : List Candidate) (r : Removal) : Prop where
  candidate : ∀ id ∈ r.bindings, ∃ c ∈ all, c.binding = id
  span : ∀ s ∈ r.spans, ∃ c ∈ all, c.binding ∈ r.bindings ∧ c.span = s
  covered : ∀ id ∈ r.bindings, ∀ ref ∈ uses id, ∃ s ∈ r.spans, s.covers ref.site.span = true

variable {uses : Nat → List Reference} {all : List Candidate} {r : Removal}

/-- What every look at a candidate keeps is kept by a pass. -/
theorem pass_keeps {P : Removal → Prop} (hvisit : ∀ r, ∀ c ∈ all, P r → P (r.visit uses all c)) (h : P r) :
    P (r.pass uses all) := by
  have hfold : ∀ cs : List Candidate, (∀ c ∈ cs, c ∈ all) → ∀ r, P r → P (cs.foldl (visit uses all) r) := by
    intro cs
    induction cs with
    | nil => exact fun _ _ h => h
    | cons c cs ih =>
      intro hcs r h
      exact ih (fun d hd => hcs d (List.mem_cons_of_mem c hd)) _ (hvisit r c (hcs c List.mem_cons_self) h)
  exact hfold all (fun _ h => h) r h

theorem settle_keeps {P : Removal → Prop} (hvisit : ∀ r, ∀ c ∈ all, P r → P (r.visit uses all c)) (h : P r)
    (fuel : Nat) : P (r.settle uses all fuel) := by
  fun_induction Removal.settle uses all fuel r with
  | case1 r => exact h
  | case2 fuel r r' hlen => exact h
  | case3 fuel r r' hlen ih => exact ih (pass_keeps hvisit h)

private theorem justified_empty : Justified uses all empty := ⟨by simp [empty], by simp [empty], by simp [empty]⟩

/-- A look at a candidate lets its binding go only if that is justified. -/
theorem Justified.visit (h : Justified uses all r) {c : Candidate} (hc : c ∈ all) :
    Justified uses all (r.visit uses all c) := by
  unfold Removal.visit
  split
  · exact h
  · rename_i hgo
    have hdead : ∀ ref ∈ uses c.binding, ∃ s ∈ r.spans, s.covers ref.site.span = true := by
      rw [Bool.or_eq_true, not_or] at hgo
      simpa [isLive] using hgo.2
    refine ⟨?_, ?_, ?_⟩
    · intro id hid
      rcases List.mem_cons.1 hid with rfl | hid
      · exact ⟨c, hc, rfl⟩
      · exact h.candidate id hid
    · intro s hs
      rcases List.mem_append.1 hs with hs | hs
      · obtain ⟨d, hd, hgone, heq⟩ := h.span s hs
        exact ⟨d, hd, List.mem_cons_of_mem _ hgone, heq⟩
      · obtain ⟨d, hd, rfl⟩ := List.mem_map.1 hs
        obtain ⟨hd, hsame⟩ := List.mem_filter.1 hd
        exact ⟨d, hd, by simp [remove, of_decide_eq_true hsame], rfl⟩
    · intro id hid ref href
      have hold : ∃ s ∈ r.spans, s.covers ref.site.span = true := by
        rcases List.mem_cons.1 hid with rfl | hid
        · exact hdead ref href
        · exact h.covered id hid ref href
      obtain ⟨s, hs, hcovers⟩ := hold
      exact ⟨s, List.mem_append_left _ hs, hcovers⟩

theorem Justified.settle (h : Justified uses all r) (fuel : Nat) : Justified uses all (r.settle uses all fuel) :=
  settle_keeps (fun _ _ hc h => h.visit hc) h fuel

end Removal

/-- A binding that goes has a declarator, and its uses stand inside declarators of bindings that go. -/
theorem removed_spec {uses : Nat → List Reference} {all : List Candidate} {id : Nat} (h : id ∈ removed uses all) :
    (∃ c ∈ all, c.binding = id) ∧
      ∀ ref ∈ uses id, ∃ c ∈ all, c.binding ∈ removed uses all ∧ c.span.covers ref.site.span = true := by
  have hjustified : Removal.Justified uses all (Removal.empty.settle uses all all.length) :=
    Removal.justified_empty.settle all.length
  refine ⟨hjustified.candidate id h, fun ref href => ?_⟩
  obtain ⟨s, hs, hcovers⟩ := hjustified.covered id h ref href
  obtain ⟨c, hc, hgone, rfl⟩ := hjustified.span s hs
  exact ⟨c, hc, hgone, hcovers⟩

/-- The variable that stands in the text between two offsets, whose binding has the given number. -/
def declaratorAt (start stop id : Nat) : Declarator :=
  ⟨.mk ⟨.variableDeclarator, none, true, false, ⟨start, stop⟩, start⟩ [], "", some id⟩

end UnusedVariables

end ScriptTidy
