import Mathlib.Tactic.ByContra
import ScriptTidy.Rule.UnusedImports
import ScriptTidy.Proofs.Edit.InPlace
import ScriptTidy.Proofs.Rule.Proposal
import ScriptTidy.Proofs.Syntax.FullSpans

/-!
# Edits of import statements

An import clause in order has at most a default name and, behind it, at most a namespace or a list. Read into a
`Clause`, its parts then stand where the rule on unused imports expects them (`isLaidOut_ofNode`), and as long as some
name is used, the edits that take the others out are apart (`Clause.IsLaidOut.pairwise_edits`). Those of different
statements are apart as well (`eq_or_apart_of_mem_propose`), and no edit takes away what brings in a used name
(`spares_of_mem_propose`).
-/

namespace ScriptTidy

/-- The kinds of the parts of an import clause that bring in names. -/
def Kind.isImportPart : Kind → Bool
  | identifier | namespaceImport | namedImports => true
  | _ => false

namespace Node

/-- The parts of an import clause that bring in names. -/
def importParts (n : Node) : List Node := n.properChildren.filter (·.kind.isImportPart)

/-- Of two parts of an import clause, the first is the default name and the other is none. -/
def ClausesInOrder (n : Node) : Prop :=
  ∀ c ∈ n.nodes, c.kind = .importClause →
    c.importParts.Pairwise fun a b => a.kind = .identifier ∧ b.kind ≠ .identifier

instance (n : Node) : Decidable n.ClausesInOrder :=
  inferInstanceAs (Decidable (∀ c ∈ n.nodes, c.kind = .importClause →
    c.importParts.Pairwise fun a b => a.kind = .identifier ∧ b.kind ≠ .identifier))

private theorem mem_children_of_importParts {n c : Node} (h : c ∈ n.importParts) : c ∈ n.children :=
  mem_children_of_proper (List.mem_filter.1 h).1

end Node

/-- The edit stays away from the node, or writes its text again as one of a list. -/
def Edit.Spares (source : String) (n : Node) (e : Edit) : Prop :=
  e.span.Apart n.span ∨ ∃ texts, e.replacement = ", ".intercalate texts ∧ n.text source ∈ texts

namespace UnusedImports

variable {f : Facts} {n : Node}

/-! ### The parts of a clause -/

namespace Clause

/-- The parts of the clause stand in node `n`: the default name, behind it the namespace or the list, and in the list
its names in their order. -/
structure IsLaidOut (n : Node) (c : Clause) : Prop where
  default : ∀ d, c.default? = some d → d.part ∈ n.children
  whole : ∀ w, c.whole? = some w → w.part ∈ n.children ∧ c.list? = none
  list : ∀ l, c.list? = some l → l ∈ n.children
  behind : ∀ d, c.default? = some d → ∀ r, c.rest? = some r → d.part.span.stop ≤ r.span.start
  specifiers : ∀ s ∈ c.specifiers, ∃ l, c.list? = some l ∧ s.part ∈ l.children
  inOrder : c.specifiers.Pairwise fun s s' => s.part.span.stop ≤ s'.part.span.start

private theorem add_of_not_part (c : Clause) {part : Node} (h : part.kind.isImportPart = false) :
    add f c part = c := by
  unfold add
  split <;> simp_all [Kind.isImportPart]

private theorem ofNode_eq (f : Facts) (n : Node) : ofNode f n = n.importParts.foldl (add f) empty := by
  have hfilter : ∀ (ns : List Node) (c : Clause),
      ns.foldl (add f) c = (ns.filter (·.kind.isImportPart)).foldl (add f) c := by
    intro ns
    induction ns with
    | nil => exact fun _ => rfl
    | cons m ns ih =>
      intro c
      rw [List.foldl_cons, List.filter_cons]
      split
      · exact ih _
      · rename_i hm
        rw [add_of_not_part c (by simpa using hm), ih]
  exact hfilter n.properChildren empty

/-- A namespace or a list behind what is there, which is at most a default name. -/
private theorem isLaidOut_add (hn : n.IsNested) {c : Clause} (hwhole : c.whole? = none) (hlist : c.list? = none)
    (hspecifiers : c.specifiers = []) {part : Node} (hpart : part ∈ n.children) (hkind : part.kind ≠ .identifier)
    (hdefault : ∀ d, c.default? = some d → d.part ∈ n.children ∧ d.part.span.stop ≤ part.span.start) :
    (add f c part).IsLaidOut n := by
  have hfirst : c.IsLaidOut n := by
    refine ⟨fun d hd => (hdefault d hd).1, ?_, ?_, ?_, ?_, ?_⟩
    all_goals simp [rest?, hwhole, hlist, hspecifiers]
  unfold add
  split
  · exact absurd ‹_› hkind
  · split
    · -- a namespace
      refine ⟨hfirst.default, ?_, ?_, ?_, ?_, ?_⟩
      · rintro w ⟨⟩
        exact ⟨hpart, hlist⟩
      · exact hfirst.list
      · rintro d hd r ⟨⟩
        exact (hdefault d hd).2
      · exact hfirst.specifiers
      · exact hfirst.inOrder
    · exact hfirst
  · -- a list
    simp only [hspecifiers, List.nil_append]
    refine ⟨hfirst.default, ?_, ?_, ?_, ?_, ?_⟩
    · intro w hw
      simp [hwhole] at hw
    · rintro l ⟨⟩
      exact hpart
    · intro d hd r hr
      simp only [rest?, hwhole, Option.map_none, Option.none_or, Option.some.injEq] at hr
      exact hr ▸ (hdefault d hd).2
    · intro s hs
      obtain ⟨specifier, hspecifier, hsome⟩ := List.mem_filterMap.1 hs
      obtain ⟨name, -, rfl⟩ := Option.map_eq_some_iff.1 hsome
      exact ⟨part, rfl, Node.mem_children_of_proper hspecifier⟩
    · refine List.Pairwise.filterMap _ ?_ ((hn.child hpart).pairwise_children.filter Node.isProper)
      intro a b hab s hs s' hs'
      obtain ⟨_, -, rfl⟩ := Option.map_eq_some_iff.1 hs
      obtain ⟨_, -, rfl⟩ := Option.map_eq_some_iff.1 hs'
      exact hab
  · exact hfirst

/-- The parts of a clause in order are laid out. -/
theorem isLaidOut_ofNode (hn : n.IsNested)
    (h : n.importParts.Pairwise fun a b => a.kind = .identifier ∧ b.kind ≠ .identifier) :
    (ofNode f n).IsLaidOut n := by
  have hempty : empty.IsLaidOut n := by
    refine ⟨?_, ?_, ?_, ?_, ?_, ?_⟩
    all_goals simp [empty, rest?]
  have hadd : ∀ {a : Node} (c : Clause), a.kind = .identifier →
      add f c a = { c with default? := some (imported f a a) } := by
    intro a c ha
    simp [add, ha]
  have hmem : ∀ a ∈ n.importParts, a ∈ n.children := fun a ha => Node.mem_children_of_importParts ha
  have horder : n.importParts.Pairwise fun a b => a.span.stop ≤ b.span.start :=
    (hn.pairwise_children.filter _).filter _
  rw [ofNode_eq]
  -- a clause in order has no more than two parts
  match hparts : n.importParts with
  | [] => exact hempty
  | [a] =>
    rw [hparts] at hmem
    have ha := hmem a (by simp)
    rw [List.foldl_cons, List.foldl_nil]
    by_cases hk : a.kind = .identifier
    · rw [hadd empty hk]
      refine ⟨?_, hempty.whole, hempty.list, ?_, hempty.specifiers, hempty.inOrder⟩
      · rintro d ⟨⟩
        exact ha
      · rintro d - r ⟨⟩
    · exact isLaidOut_add hn rfl rfl rfl ha hk (by simp [empty])
  | [a, b] =>
    rw [hparts] at hmem h horder
    simp only [List.pairwise_cons, List.forall_mem_cons] at h horder
    obtain ⟨ha, hb⟩ := h.1.1
    rw [List.foldl_cons, List.foldl_cons, List.foldl_nil, hadd empty ha]
    refine isLaidOut_add hn rfl rfl rfl (hmem b (by simp)) hb ?_
    rintro d ⟨⟩
    exact ⟨hmem a (by simp), horder.1.1⟩
  | a :: b :: c :: rest =>
    rw [hparts] at h
    simp only [List.pairwise_cons, List.forall_mem_cons] at h
    exact absurd h.2.1.1.1 h.1.1.2

/-! ### The edits of a clause -/

/-- The edits of a clause whose names do not all go. -/
def partEdits (source : String) (c : Clause) : List Edit :=
  c.defaultEdits ++ c.namespaceEdits ++ c.specifierEdits source

section Edits

variable {c : Clause} {source : String}

private theorem defaultEdits_cases (c : Clause) : c.defaultEdits = [] ∨
    ∃ d r, c.default? = some d ∧ c.rest? = some r ∧ d.used = false ∧
      c.defaultEdits = [.delete ⟨d.part.span.start, r.span.start⟩] := by
  unfold defaultEdits
  split
  · rename_i d r hd hr
    split
    · exact .inl rfl
    · exact .inr ⟨d, r, hd, hr, by simpa using ‹¬ d.used = true›, rfl⟩
  · exact .inl rfl

private theorem namespaceEdits_cases (c : Clause) : c.namespaceEdits = [] ∨
    ∃ w d, c.whole? = some w ∧ c.default? = some d ∧ w.used = false ∧
      c.namespaceEdits = [.delete ⟨d.part.span.stop, w.part.span.stop⟩] := by
  unfold namespaceEdits
  split
  · rename_i w d hw hd
    split
    · exact .inl rfl
    · exact .inr ⟨w, d, hw, hd, by simpa using ‹¬ w.used = true›, rfl⟩
  · exact .inl rfl

private theorem specifierEdits_cases (source : String) (c : Clause) : c.specifierEdits source = [] ∨
    (∃ d l, c.default? = some d ∧ c.list? = some l ∧ (∀ s ∈ c.specifiers, s.used = false) ∧
      c.specifierEdits source = [.delete ⟨d.part.span.stop, l.span.stop⟩]) ∨
    ∃ first last, c.specifiers.head? = some first ∧ c.specifiers.getLast? = some last ∧
      c.specifierEdits source = [.replace ⟨first.part.span.start, last.part.span.stop⟩
        (", ".intercalate ((c.specifiers.filter (·.used)).map (·.part.text source)))] := by
  unfold specifierEdits
  dsimp only
  split
  · exact .inl rfl
  split
  · rename_i hkept
    split
    · rename_i d l hd hl
      refine .inr (.inl ⟨d, l, hd, hl, fun s hs => ?_, rfl⟩)
      have hnone := List.filter_eq_nil_iff.1 (List.isEmpty_iff.1 hkept) s hs
      simpa using hnone
    · exact .inl rfl
  · split
    · exact .inr (.inr ⟨_, _, ‹_›, ‹_›, rfl⟩)
    · exact .inl rfl

theorem mem_names {i : ImportedName} :
    i ∈ c.names ↔ c.default? = some i ∨ c.whole? = some i ∨ i ∈ c.specifiers := by
  simp [names]

private theorem specifierEdits_of_nil (h : c.specifiers = []) : c.specifierEdits source = [] := by
  simp [specifierEdits, h]

namespace IsLaidOut

variable (h : c.IsLaidOut n)
include h

private theorem rest_mem {r : Node} (hr : c.rest? = some r) : r ∈ n.children := by
  rcases Option.or_eq_some_iff.1 hr with hmap | ⟨-, hl⟩
  · obtain ⟨w, hw, rfl⟩ := Option.map_eq_some_iff.1 hmap
    exact (h.whole w hw).1
  · exact h.list r hl

private theorem specifiers_of_whole {w : ImportedName} (hw : c.whole? = some w) : c.specifiers = [] := by
  rw [List.eq_nil_iff_forall_not_mem]
  intro s hs
  obtain ⟨l, hl, -⟩ := h.specifiers s hs
  rw [(h.whole w hw).2] at hl
  cases hl

private theorem whole_of_list {l : Node} (hl : c.list? = some l) : c.whole? = none := by
  cases hw : c.whole? with
  | none => rfl
  | some w =>
    rw [(h.whole w hw).2] at hl
    cases hl

private theorem rest_of_list {l : Node} (hl : c.list? = some l) : c.rest? = some l := by
  simp [rest?, h.whole_of_list hl, hl]

/-- The edits start and stop where nodes do, and hold bytes if these do. -/
theorem frames (hbyte : ∀ p ∈ n.nodes, ∀ c ∈ p.children, c.span.start < c.span.stop) {e : Edit}
    (he : e ∈ c.defaultEdits ++ c.namespaceEdits ++ c.specifierEdits source) :
    e.start < e.stop ∧ n.HasEnd e.start ∧ n.HasEnd e.stop := by
  have hmem : ∀ {m : Node}, m ∈ n.children → m ∈ n.nodes := Node.child_mem_nodes
  have hbyte' : ∀ m ∈ n.children, m.span.start < m.span.stop := hbyte n (Node.mem_nodes_self n)
  rcases List.mem_append.1 he with he | he
  · rcases List.mem_append.1 he with he | he
    · rcases defaultEdits_cases c with hnil | ⟨d, r, hd, hr, -, heq⟩
      · rw [hnil] at he
        cases he
      rw [heq] at he
      obtain rfl := List.mem_singleton.1 he
      have h₁ := hbyte' _ (h.default d hd)
      have h₂ := h.behind d hd r hr
      simp only [Edit.start_delete, Edit.stop_delete]
      exact ⟨by omega, .start (hmem (h.default d hd)), .start (hmem (h.rest_mem hr))⟩
    · rcases namespaceEdits_cases c with hnil | ⟨w, d, hw, hd, -, heq⟩
      · rw [hnil] at he
        cases he
      rw [heq] at he
      obtain rfl := List.mem_singleton.1 he
      have hr : c.rest? = some w.part := by simp [rest?, hw]
      have h₁ := hbyte' _ (h.whole w hw).1
      have h₂ := h.behind d hd _ hr
      simp only [Edit.start_delete, Edit.stop_delete]
      exact ⟨by omega, .stop (hmem (h.default d hd)), .stop (hmem (h.whole w hw).1)⟩
  · rcases specifierEdits_cases source c with hnil | ⟨d, l, hd, hl, -, heq⟩ | ⟨first, last, hfirst, hlast, heq⟩
    · rw [hnil] at he
      cases he
    · rw [heq] at he
      obtain rfl := List.mem_singleton.1 he
      have h₁ := hbyte' _ (h.list l hl)
      have h₂ := h.behind d hd l (h.rest_of_list hl)
      simp only [Edit.start_delete, Edit.stop_delete]
      exact ⟨by omega, .stop (hmem (h.default d hd)), .stop (hmem (h.list l hl))⟩
    · rw [heq] at he
      obtain rfl := List.mem_singleton.1 he
      have hfirst' := List.mem_of_head? hfirst
      have hlast' := List.mem_of_getLast? hlast
      obtain ⟨l, hl, hl₁⟩ := h.specifiers first hfirst'
      obtain ⟨l', hl', hl₂⟩ := h.specifiers last hlast'
      obtain rfl : l = l' := Option.some.inj (hl.symm.trans hl')
      have hbyte'' : ∀ m ∈ l.children, m.span.start < m.span.stop := hbyte l (hmem (h.list l hl))
      have h₁ := hbyte'' _ hl₁
      have h₂ := hbyte'' _ hl₂
      -- the last name is the first, or stands behind it
      have h₃ : first.part.span.start ≤ last.part.span.start := by
        obtain ⟨rest, hrest⟩ := List.head?_eq_some_iff.1 hfirst
        rw [hrest] at hlast'
        rcases List.mem_cons.1 hlast' with rfl | hlast'
        · exact Nat.le_refl _
        · have horder := h.inOrder
          rw [hrest] at horder
          have := List.rel_of_pairwise_cons horder hlast'
          omega
      have hinside : ∀ {m : Node}, m ∈ l.children → m ∈ n.nodes := fun hm =>
        Node.mem_nodes_of_child (h.list l hl) (Node.child_mem_nodes hm)
      simp only [Edit.start_replace, Edit.stop_replace]
      exact ⟨by omega, .start (hinside hl₁), .stop (hinside hl₂)⟩

/-- As long as a name of the clause is used, its edits are apart. -/
theorem pairwise_edits (hn : n.IsNested) (hused : ∃ i ∈ c.names, i.used = true) :
    (c.defaultEdits ++ c.namespaceEdits ++ c.specifierEdits source).Pairwise fun a b => a.span.Apart b.span := by
  obtain ⟨i, hi, hiused⟩ := hused
  rcases defaultEdits_cases c with hdefault | ⟨d, r, hd, hr, hdused, hdefault⟩
  · -- the default name stays, and there is a namespace or a list
    rw [hdefault, List.nil_append]
    rcases namespaceEdits_cases c with hwhole | ⟨w, d, hw, hd, -, hwhole⟩
    · rw [hwhole, List.nil_append]
      rcases specifierEdits_cases source c with heq | ⟨_, _, -, -, -, heq⟩ | ⟨_, _, -, -, heq⟩ <;> simp [heq]
    · rw [hwhole, specifierEdits_of_nil (h.specifiers_of_whole hw)]
      simp
  · -- the default name goes, so that not all of what is behind it goes as well
    rw [hdefault]
    have hbehind : i ≠ d := by
      rintro rfl
      rw [hdused] at hiused
      cases hiused
    rcases mem_names.1 hi with hi | hi | hi
    · exact absurd (Option.some.inj (hi.symm.trans hd)) hbehind
    · rw [specifierEdits_of_nil (h.specifiers_of_whole hi)]
      simp [namespaceEdits, hi, hiused, hd]
    · obtain ⟨l, hl, -⟩ := h.specifiers i hi
      obtain rfl : l = r := Option.some.inj ((h.rest_of_list hl).symm.trans hr)
      have hwhole : c.namespaceEdits = [] := by simp [namespaceEdits, h.whole_of_list hl]
      rw [hwhole, List.append_nil]
      rcases specifierEdits_cases source c with heq | ⟨_, _, -, -, hnone, -⟩ | ⟨first, last, hfirst, -, heq⟩
      · simp [heq]
      · rw [hnone i hi] at hiused
        cases hiused
      · obtain ⟨l', hl', hfirst'⟩ := h.specifiers first (List.mem_of_head? hfirst)
        obtain rfl : l = l' := Option.some.inj (hl.symm.trans hl')
        have hstart := (Span.covers_iff.1 ((hn.child (h.list l hl)).covers_child hfirst')).1
        rw [heq, List.singleton_append, List.pairwise_pair]
        exact .inl hstart

private theorem mem_nodes_of_names {i : ImportedName} (hi : i ∈ c.names) : i.part ∈ n.nodes := by
  rcases mem_names.1 hi with hi | hi | hi
  · exact Node.child_mem_nodes (h.default i hi)
  · exact Node.child_mem_nodes (h.whole i hi).1
  · obtain ⟨l, hl, hil⟩ := h.specifiers i hi
    exact Node.mem_nodes_of_child (h.list l hl) (Node.child_mem_nodes hil)

/-- The edits of a clause spare the parts that bring in used names. -/
private theorem spares (hn : n.IsNested) {i : ImportedName} (hi : i ∈ c.names) (hused : i.used = true) {e : Edit}
    (he : e ∈ c.defaultEdits ++ c.namespaceEdits ++ c.specifierEdits source) : e.Spares source i.part := by
  -- a name of the list stands behind its start
  have hlist : ∀ {l : Node}, c.list? = some l → i ∈ c.specifiers → l.span.start ≤ i.part.span.start := by
    intro l hl hi
    obtain ⟨l', hl', hil⟩ := h.specifiers i hi
    obtain rfl : l = l' := Option.some.inj (hl.symm.trans hl')
    exact (Span.covers_iff.1 ((hn.child (h.list l hl)).covers_child hil)).1
  have hnot : ∀ {j : ImportedName}, j.used = false → j ≠ i := by
    rintro j hj rfl
    rw [hj] at hused
    cases hused
  rcases List.mem_append.1 he with he | he
  · rcases List.mem_append.1 he with he | he
    · rcases defaultEdits_cases c with hnil | ⟨d, r, hd, hr, hdused, heq⟩
      · rw [hnil] at he
        cases he
      rw [heq] at he
      obtain rfl := List.mem_singleton.1 he
      rcases mem_names.1 hi with hi | hi | hi
      · exact absurd (Option.some.inj (hd.symm.trans hi)) (hnot hdused)
      · have hr' : r = i.part := by simpa [rest?, hi] using hr.symm
        exact .inl (.inl (Nat.le_of_eq (by rw [hr', Edit.span_delete])))
      · obtain ⟨l, hl, -⟩ := h.specifiers i hi
        obtain rfl : l = r := Option.some.inj ((h.rest_of_list hl).symm.trans hr)
        exact .inl (.inl (hlist hl hi))
    · rcases namespaceEdits_cases c with hnil | ⟨w, d, hw, hd, hwused, heq⟩
      · rw [hnil] at he
        cases he
      rw [heq] at he
      obtain rfl := List.mem_singleton.1 he
      rcases mem_names.1 hi with hi | hi | hi
      · obtain rfl := Option.some.inj (hd.symm.trans hi)
        exact .inl (.inr (Nat.le_refl _))
      · exact absurd (Option.some.inj (hw.symm.trans hi)) (hnot hwused)
      · rw [h.specifiers_of_whole hw] at hi
        cases hi
  · rcases specifierEdits_cases source c with hnil | ⟨d, l, hd, hl, hnone, heq⟩ | ⟨first, last, hfirst, hlast, heq⟩
    · rw [hnil] at he
      cases he
    · rw [heq] at he
      obtain rfl := List.mem_singleton.1 he
      rcases mem_names.1 hi with hi | hi | hi
      · obtain rfl := Option.some.inj (hd.symm.trans hi)
        exact .inl (.inr (Nat.le_refl _))
      · rw [h.whole_of_list hl] at hi
        cases hi
      · exact absurd rfl (hnot (hnone i hi))
    · rw [heq] at he
      obtain rfl := List.mem_singleton.1 he
      obtain ⟨l, hl, hfirst'⟩ := h.specifiers first (List.mem_of_head? hfirst)
      rcases mem_names.1 hi with hi | hi | hi
      · have h₁ := h.behind i hi l (h.rest_of_list hl)
        have h₂ := (Span.covers_iff.1 ((hn.child (h.list l hl)).covers_child hfirst')).1
        exact .inl (.inr (Nat.le_trans h₁ h₂))
      · rw [h.whole_of_list hl] at hi
        cases hi
      · exact .inr ⟨_, rfl, List.mem_map.2 ⟨i, List.mem_filter.2 ⟨hi, hused⟩, rfl⟩⟩

end IsLaidOut

end Edits

/-! ### The names of a clause -/

private theorem used_of_mem_add {c : Clause} (hc : ∀ i ∈ c.names, i.used = isUsed f i.name) (part : Node) :
    ∀ i ∈ (add f c part).names, i.used = isUsed f i.name := by
  have hold : ∀ {i : ImportedName}, c.default? = some i ∨ c.whole? = some i ∨ i ∈ c.specifiers →
      i.used = isUsed f i.name := fun hi => hc _ (mem_names.2 hi)
  intro i hi
  unfold add at hi
  split at hi
  · rcases mem_names.1 hi with hi | hi | hi
    · cases hi
      rfl
    · exact hold (.inr (.inl hi))
    · exact hold (.inr (.inr hi))
  · split at hi
    · rcases mem_names.1 hi with hi | hi | hi
      · exact hold (.inl hi)
      · cases hi
        rfl
      · exact hold (.inr (.inr hi))
    · exact hc i hi
  · rcases mem_names.1 hi with hi | hi | hi
    · exact hold (.inl hi)
    · exact hold (.inr (.inl hi))
    · rcases List.mem_append.1 hi with hi | hi
      · exact hold (.inr (.inr hi))
      · obtain ⟨_, -, hsome⟩ := List.mem_filterMap.1 hi
        obtain ⟨_, -, rfl⟩ := Option.map_eq_some_iff.1 hsome
        rfl
  · exact hc i hi

/-- A name of a clause is used exactly if it is referred to or left alone. -/
theorem used_of_mem_names {i : ImportedName} (hi : i ∈ (ofNode f n).names) : i.used = isUsed f i.name := by
  have hfold : ∀ (parts : List Node) (c : Clause), (∀ i ∈ c.names, i.used = isUsed f i.name) →
      ∀ i ∈ (parts.foldl (add f) c).names, i.used = isUsed f i.name := by
    intro parts
    induction parts with
    | nil => exact fun _ hc => hc
    | cons part parts ih => exact fun c hc => ih _ (used_of_mem_add hc part)
  exact hfold n.properChildren empty (by simp [names, empty]) i hi

end Clause

/-- Names that are used are not among the changes. -/
theorem not_mem_changes {name : String} (hused : Clause.isUsed f name = true) : name ∉ (propose f).changes := by
  intro hmem
  simp only [propose, Proposal.changes_concat, List.flatMap_map, List.mem_flatMap] at hmem
  obtain ⟨s, -, hmem⟩ := hmem
  unfold proposeFor at hmem
  split at hmem
  · cases hmem
  · dsimp only at hmem
    split at hmem
    · cases hmem
    · obtain ⟨i, hi, rfl⟩ := List.mem_map.1 hmem
      obtain ⟨hi, hunused⟩ := List.mem_filter.1 hi
      rw [Clause.used_of_mem_names hi, hused] at hunused
      cases hunused

/-! ### The edits of a file -/

section File

variable (hnested : f.tree.root.IsNested) (hplaced : f.tree.root.IsPlaced) (hanchored : f.tree.root.IsAnchored)
  (hbyte : ∀ p ∈ f.tree.root.nodes, ∀ c ∈ p.children, c.span.start < c.span.stop)
  (hclauses : f.tree.root.ClausesInOrder)

include hnested hplaced hanchored hbyte hclauses

/-- The edits for an import statement hold bytes, start and stop where its nodes do, and are apart. -/
private theorem edits_of_statement {s : Node} (hs : s ∈ f.tree.root.children) :
    (∀ e ∈ (proposeFor f s).edits, e.start < e.stop ∧ s.HasEnd e.start ∧ s.HasEnd e.stop) ∧
      (proposeFor f s).edits.Pairwise fun a b => a.span.Apart b.span := by
  have hsroot := Node.child_mem_nodes hs
  unfold proposeFor
  split
  · simp [Proposal.none]
  rename_i n hn
  have hns := Node.mem_children_of_kind hn
  have hns' := Node.child_mem_nodes hns
  have hnroot := Node.mem_nodes_trans hns' hsroot
  have hnested' := hnested.of_mem hnroot
  have hk : n.kind = .importClause := by simpa using List.find?_some hn
  dsimp only
  split
  · simp [Proposal.none]
  dsimp only
  split
  · have h₁ := (hplaced.of_mem hsroot).start_le
    have h₂ := hbyte _ (Node.mem_nodes_self _) s hs
    simp only [List.mem_singleton, forall_eq, Edit.start_delete, Edit.stop_delete, Node.stop_fullSpan,
      List.pairwise_singleton, and_true]
    exact ⟨by omega, .inl rfl, .stop (Node.mem_nodes_self s)⟩
  · rename_i hsome
    have hlaid := Clause.isLaidOut_ofNode (f := f) hnested' (hclauses n hnroot hk)
    have hused : ∃ i ∈ (Clause.ofNode f n).names, i.used = true := by
      by_contra hnone
      refine hsome (List.length_filter_eq_length_iff.2 fun i hi => ?_)
      by_contra hi'
      exact hnone ⟨i, hi, by simpa using hi'⟩
    refine ⟨fun e he => ?_, hlaid.pairwise_edits hnested' hused⟩
    obtain ⟨hlt, hstart, hstop⟩ := hlaid.frames (fun p hp => hbyte p (Node.mem_nodes_trans hp hnroot)) he
    exact ⟨hlt, hstart.of_mem (hanchored.of_mem hsroot) hns', hstop.of_mem (hanchored.of_mem hsroot) hns'⟩

omit hnested hplaced hanchored hbyte hclauses in
private theorem mem_edits_propose {e : Edit} (he : e ∈ (propose f).edits) :
    ∃ s ∈ f.tree.root.children, s.kind = .importStatement ∧ e ∈ (proposeFor f s).edits := by
  simp only [propose, Proposal.edits_concat, List.flatMap_map, List.mem_flatMap, List.mem_filter] at he
  obtain ⟨s, ⟨hs, hk⟩, he⟩ := he
  exact ⟨s, Node.mem_children_of_proper hs, by simpa using hk, he⟩

theorem frames_of_mem_propose {e : Edit} (he : e ∈ (propose f).edits) :
    e.start < e.stop ∧ f.tree.root.HasEnd e.start ∧ f.tree.root.HasEnd e.stop := by
  obtain ⟨s, hs, -, he⟩ := mem_edits_propose he
  obtain ⟨hlt, hstart, hstop⟩ := (edits_of_statement hnested hplaced hanchored hbyte hclauses hs).1 e he
  have hsroot := Node.child_mem_nodes hs
  exact ⟨hlt, hstart.of_mem hanchored hsroot, hstop.of_mem hanchored hsroot⟩

/-- The edits for a statement lie inside its full span. -/
private theorem inside_of_mem_proposeFor {s : Node} (hs : s ∈ f.tree.root.children) {e : Edit}
    (he : e ∈ (proposeFor f s).edits) : s.fullSpan.covers e.span = true := by
  have hplaced' := hplaced.of_mem (Node.child_mem_nodes hs)
  obtain ⟨-, hstart, hstop⟩ := (edits_of_statement hnested hplaced hanchored hbyte hclauses hs).1 e he
  have h₁ := (hstart.inside (hnested.child hs) hplaced').1
  have h₂ := (hstop.inside (hnested.child hs) hplaced').2
  exact Span.covers_iff.2 ⟨h₁, h₂⟩

omit hnested hanchored hbyte hclauses in
private theorem eq_or_apart_of_statements {s s' : Node} (hs : s ∈ f.tree.root.children)
    (hs' : s' ∈ f.tree.root.children) (hk : s.kind = .importStatement) (hk' : s'.kind = .importStatement) :
    s = s' ∨ s.fullSpan.Apart s'.fullSpan := by
  rcases eq_or_rel (hplaced _ (Node.mem_nodes_self _)).2.2 hs hs' with heq | hlt | hlt
  · exact .inl heq
  · exact .inr (.inl (hlt.resolve_left (by rw [hk]; decide)))
  · exact .inr (.inr (hlt.resolve_left (by rw [hk']; decide)))

theorem eq_or_apart_of_mem_propose {e e' : Edit} (he : e ∈ (propose f).edits) (he' : e' ∈ (propose f).edits) :
    e = e' ∨ e.span.Apart e'.span := by
  obtain ⟨s, hs, hk, he⟩ := mem_edits_propose he
  obtain ⟨s', hs', hk', he'⟩ := mem_edits_propose he'
  rcases eq_or_apart_of_statements hplaced hs hs' hk hk' with rfl | hapart
  · exact Span.eq_or_apart (edits_of_statement hnested hplaced hanchored hbyte hclauses hs).2 he he'
  · have hinside := inside_of_mem_proposeFor hnested hplaced hanchored hbyte hclauses hs he
    have hinside' := inside_of_mem_proposeFor hnested hplaced hanchored hbyte hclauses hs' he'
    exact .inr (hapart.of_covers hinside hinside')

/-- No edit takes away the part of an import clause that brings in a used name. -/
theorem spares_of_mem_propose {s : Node} (hs : s ∈ f.tree.root.children) (hk : s.kind = .importStatement)
    (hn : s.childOfKind? .importClause = some n) {i : ImportedName} (hi : i ∈ (Clause.ofNode f n).names)
    (hused : i.used = true) {e : Edit} (he : e ∈ (propose f).edits) : e.Spares f.tree.source i.part := by
  have hsroot := Node.child_mem_nodes hs
  have hns := Node.child_mem_nodes (Node.mem_children_of_kind hn)
  have hnroot := Node.mem_nodes_trans hns hsroot
  have hclause : n.kind = .importClause := by simpa using List.find?_some hn
  have hlaid : (Clause.ofNode f n).IsLaidOut n :=
    Clause.isLaidOut_ofNode (hnested.of_mem hnroot) (hclauses n hnroot hclause)
  obtain ⟨s', hs', hk', he⟩ := mem_edits_propose he
  rcases eq_or_apart_of_statements hplaced hs' hs hk' hk with rfl | hapart
  · unfold proposeFor at he
    rw [hn] at he
    dsimp only at he
    split at he
    · cases he
    · dsimp only at he
      split at he
      · -- not all names are unused
        rename_i hall
        have hnone := List.length_filter_eq_length_iff.1 hall i hi
        simp [hused] at hnone
      · exact hlaid.spares (hnested.of_mem hnroot) hi hused he
  · have hinside := inside_of_mem_proposeFor hnested hplaced hanchored hbyte hclauses hs' he
    have hpart : s.span.covers i.part.span = true :=
      (hnested.child hs).covers (Node.mem_nodes_trans (hlaid.mem_nodes_of_names hi) hns)
    exact .inl (hapart.of_covers hinside (Span.covers_trans (hplaced.of_mem hsroot).covers_span hpart))

end File

end UnusedImports

end ScriptTidy
