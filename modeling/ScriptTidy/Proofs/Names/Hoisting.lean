import ScriptTidy.Proofs.Names.Enclosing

/-!
# Where declarations by var end up

While a file is read, a declaration by `var` goes to the innermost region on the stack that is a function or the file.
The finished scope tree looks for this region along the parents. At every point of the way both come to the same one,
because the stack is the chain of the innermost region there (`IsWithin.stack_eq_chain`).

The names that a tree declares by `var` (`Tree.DeclaresVar`) are those that are declared on the way. Such a name belongs
to the first of the regions around it that is a function or the file, and has one binding there however often it is
declared (`hoisting_agrees_with_finished_tree`).
-/

namespace ScriptTidy

open Outline (Step)
open Outline.steps (stepsAll)

private theorem ScopeKind.isFunctionLike_iff {kind : ScopeKind} :
    kind.isFunctionLike = true ↔ kind = .file ∨ kind = .function := by
  cases kind <;> simp [isFunctionLike]

/-! ### What a record keeps of its variables -/

namespace ScopeRecord

variable {P : Mention → Prop} {d : ScopeRecord}

/-- There is always a region to hoist to, because the outermost one is the file. -/
private theorem Rooted.exists_hoistTarget (h : Rooted d) (opened : List Nat) :
    ∃ f, d.frames[d.hoistTarget opened]? = some f ∧ f.kind.isFunctionLike = true := by
  unfold hoistTarget
  cases hfind : opened.find? fun id => d.scopes[id]?.any (·.kind.isFunctionLike) with
  | some id =>
    have hany : d.scopes[id]?.any (·.kind.isFunctionLike) = true := by simpa using List.find?_some hfind
    obtain ⟨s, hs, hkind⟩ := (Option.any_eq_true _ _).1 hany
    refine ⟨s.frame, ?_, hkind⟩
    rw [Option.getD_some, getElem?_frames, hs]
    rfl
  | none =>
    obtain ⟨f, hf, hkind, -⟩ := h.file
    exact ⟨f, hf, ScopeKind.isFunctionLike_iff.2 (.inl hkind)⟩

/-- Variables that are declared by `var` belong to functions or the file. -/
structure Hoisted (d : ScopeRecord) : Prop where
  rooted : Rooted d
  binding : ∀ {id : Nat} {b : Binding}, d.bindings[id]? = some b → b.kind = .varName →
    ∃ f, d.frames[b.scope]? = some f ∧ f.kind.isFunctionLike = true

namespace Hoisted

private theorem declare (h : Hoisted d) {opened : List Nat} {kind : BindingKind} {name : String} {site : Site}
    {id : Nat} {b : Binding} (hb : (d.declare opened kind name site).bindings[id]? = some b)
    (hvar : b.kind = .varName) : ∃ f, d.frames[b.scope]? = some f ∧ f.kind.isFunctionLike = true := by
  unfold ScopeRecord.declare at hb
  dsimp only at hb
  split at hb
  · rw [getElem?_bindings_addSite] at hb
    split at hb
    · obtain ⟨old, hold, rfl⟩ := Option.map_eq_some_iff.1 hb
      exact h.binding (b := old) hold hvar
    · exact h.binding hb hvar
  · simp only [addBinding, Array.getElem?_push] at hb
    split at hb
    · obtain rfl := Option.some.inj hb
      have hhome : d.home opened kind = d.hoistTarget opened := if_pos hvar
      rw [hhome]
      exact h.rooted.exists_hoistTarget opened
    · exact h.binding hb hvar

theorem kept : Kept (fun _ => True) Hoisted where
  declare d opened kind name site hopen hP h := by
    refine ⟨Rooted.kept.declare d opened kind name site hopen hP h.rooted, fun hb hvar => ?_⟩
    rw [frames_declare]
    exact h.declare hb hvar
  refer d opened name site hopen hP h := ⟨Rooted.kept.refer d opened name site hopen hP h.rooted, h.binding⟩
  openScope d opened kind span hopen h := by
    refine ⟨Rooted.kept.openScope d opened kind span hopen h.rooted, fun hb hvar => ?_⟩
    obtain ⟨f, hf, hkind⟩ := h.binding hb hvar
    refine ⟨f, ?_, hkind⟩
    rw [frames_openScope, List.getElem?_append_left (List.getElem?_eq_some_iff.1 hf).1, hf]
  markExported d first scope h := by
    refine ⟨Rooted.kept.markExported d first scope h.rooted, fun {id _} hb hvar => ?_⟩
    rw [getElem?_bindings_markExported] at hb
    obtain ⟨old, hold, rfl⟩ := Option.map_eq_some_iff.1 hb
    rw [frames_markExported]
    by_cases hmarked : first ≤ id ∧ old.scope = scope
    · rw [if_pos hmarked] at hvar ⊢
      exact h.binding (b := old) hold hvar
    · rw [if_neg hmarked] at hvar ⊢
      exact h.binding hold hvar

end Hoisted

private theorem hoisted_file (span : Span) : Hoisted (empty.openScope [] .file span) :=
  ⟨rooted_file span, fun hb => by simp [openScope, empty] at hb⟩

/-- The binding belongs to the region, has the name, and is declared at the site. -/
def HasSite (d : ScopeRecord) (scope : Nat) (name : String) (site : Site) (id : Nat) : Prop :=
  ∃ b, d.bindings[id]? = some b ∧ b.scope = scope ∧ b.name = name ∧ site ∈ b.sites

private theorem Sound.exists_hasSite (h : Sound P d) (opened : List Nat) (kind : BindingKind) (name : String)
    (site : Site) :
    ∃ id, (d.declare opened kind name site).HasSite (d.home opened kind) name site id := by
  unfold ScopeRecord.declare
  dsimp only
  split
  · rename_i id hid
    obtain ⟨s, hs, hlookup⟩ := Option.bind_eq_some_iff.1 hid
    obtain ⟨b, hb, hscope, hname⟩ := (h.lookup_iff hs name id).1 hlookup
    refine ⟨id, { b with sites := b.sites ++ [site] }, ?_, hscope, hname, by simp⟩
    rw [getElem?_bindings_addSite, if_pos rfl, hb]
    rfl
  · let b : Binding := ⟨d.bindings.size, name, kind, d.home opened kind, [site], false⟩
    refine ⟨d.bindings.size, b, ?_, rfl, rfl, List.mem_singleton_self _⟩
    simp [ScopeRecord.addBinding, b]

theorem HasSite.kept (scope : Nat) (name : String) (site : Site) (id : Nat) :
    Kept (fun _ => True) fun d => d.HasSite scope name site id where
  declare d opened kind name' site' _ _ h := by
    obtain ⟨b, hb, hscope, hname, hsite⟩ := h
    unfold ScopeRecord.declare
    dsimp only
    split
    · rename_i id' _
      by_cases hid : id' = id
      · refine ⟨{ b with sites := b.sites ++ [site'] }, ?_, hscope, hname, List.mem_append_left _ hsite⟩
        rw [getElem?_bindings_addSite, if_pos hid, hb]
        rfl
      · exact ⟨b, by rw [getElem?_bindings_addSite, if_neg hid, hb], hscope, hname, hsite⟩
    · have hlt := (Array.getElem?_eq_some_iff.1 hb).1
      exact ⟨b, by simpa [addBinding, Array.getElem?_push, Nat.ne_of_lt hlt] using hb, hscope, hname, hsite⟩
  refer _ _ _ _ _ _ h := h
  openScope _ _ _ _ _ h := h
  markExported d first home h := by
    obtain ⟨b, hb, hscope, hname, hsite⟩ := h
    refine ⟨_, by rw [getElem?_bindings_markExported, hb]; rfl, ?_⟩
    dsimp only
    split <;> exact ⟨hscope, hname, hsite⟩

end ScopeRecord

/-! ### Points of the way through a file -/

namespace ScopeBuilder

variable {t : Tree} {b : ScopeBuilder} {front back : List Step} {name : String} {site : Site}

private def partsOf (t : Tree) : List Outline :=
  Node.outline.outlineAll t.source (fun _ => some .code) t.root.children

private def inFile (t : Tree) : ScopeBuilder := start.apply (.enter .file t.root.fullSpan)

private theorem steps_outline (t : Tree) :
    t.outline.steps = .enter .file t.root.fullSpan :: (stepsAll (partsOf t) ++ [.leave]) := rfl

private theorem record_inFile (t : Tree) :
    ((inFile t).run (stepsAll (partsOf t))).record = t.outline.record [] .empty := by
  rw [run_steps.run_stepsAll]
  rfl

private theorem staysOpen_inFile (t : Tree) : (inFile t).StaysOpen (stepsAll (partsOf t)) :=
  .of_suffix (List.cons_ne_nil _ _) fun _ hfront => suffix_stack.suffix_stack_all (partsOf t) (inFile t) hfront

private theorem isLinked_inFile (t : Tree) : (inFile t).IsLinked := IsLinked.apply (b := start) trivial _

private theorem exists_split (h : t.outline.steps = front ++ back) (hfront : front ≠ []) (hback : back ≠ []) :
    ∃ inner rest, stepsAll (partsOf t) = inner ++ rest ∧ front = .enter .file t.root.fullSpan :: inner ∧
      back = rest ++ [.leave] := by
  obtain ⟨first, inner, rfl⟩ := List.exists_cons_of_ne_nil hfront
  rcases List.eq_nil_or_concat back with rfl | ⟨rest, last, rfl⟩
  · exact absurd rfl hback
  · rw [steps_outline, List.cons_append, List.concat_eq_append, ← List.append_assoc] at h
    obtain ⟨rfl, hrest⟩ := List.cons.inj h
    obtain ⟨hparts, hlast⟩ := List.append_inj' hrest rfl
    obtain rfl := (List.cons.inj hlast).1
    exact ⟨inner, rest, hparts, rfl, List.concat_eq_append⟩

/-- A point inside the file: what is known there, next to what is known in the end. -/
structure IsWithin (t : Tree) (b : ScopeBuilder) : Prop where
  bottom : [0] <:+ b.stack
  linked : b.IsLinked
  sound : ScopeRecord.Sound (fun _ => True) b.record
  hoisted : ScopeRecord.Hoisted b.record
  frames : b.record.frames <+: (t.outline.record [] .empty).frames

private theorem isWithin_run (h : t.outline.steps = front ++ back) (hfront : front ≠ []) (hback : back ≠ []) :
    IsWithin t (start.run front) := by
  obtain ⟨inner, rest, hparts, rfl, -⟩ := exists_split h hfront hback
  have hopen := staysOpen_inFile t
  have hlast := record_inFile t
  rw [hparts] at hopen hlast
  have hsound := ScopeRecord.sound_file (fun _ => True) t.root.fullSpan
  have hhoisted := ScopeRecord.hoisted_file t.root.fullSpan
  change IsWithin t ((inFile t).run inner)
  refine ⟨suffix_stack.suffix_stack_all (partsOf t) (inFile t) ⟨rest, hparts.symm⟩, (isLinked_inFile t).run inner,
    (ScopeRecord.Sound.kept _).run (isLinked_inFile t) hopen.append_left hsound,
    ScopeRecord.Hoisted.kept.run (isLinked_inFile t) hopen.append_left hhoisted, ?_⟩
  rw [← hlast, run_append]
  exact frames_run _ rest

namespace IsWithin

private theorem exists_stack (h : IsWithin t b) : ∃ rest, b.stack = b.current :: rest := by
  cases hstack : b.stack with
  | nil =>
    have hbottom := h.bottom
    rw [hstack, List.suffix_nil] at hbottom
    cases hbottom
  | cons id rest => exact ⟨rest, by simp [current, hstack, ScopeRecord.current]⟩

private theorem getLast?_stack (h : IsWithin t b) : b.stack.getLast? = some 0 := by
  obtain ⟨above, habove⟩ := h.bottom
  rw [← habove, List.getLast?_concat]

/-- The stack is the chain of the innermost region, in all later records. -/
theorem stack_eq_chain (h : IsWithin t b) {d : ScopeRecord} (hdescends : Scope.Descends d.scopes)
    (hframes : b.record.frames <+: d.frames) : b.stack = Scope.chain d.scopes b.current := by
  obtain ⟨rest, hrest⟩ := h.exists_stack
  have hlinked : Linked d.frames (b.current :: rest) := hrest ▸ h.linked.mono hframes
  rw [chain_eq_of_linked hdescends hlinked, hrest]

private theorem stack_eq_chain_ofTree (h : IsWithin t b) :
    b.stack = Scope.chain (ScopeTree.ofTree t).scopes b.current :=
  h.stack_eq_chain (ScopeTree.descends_ofTree t) h.frames

private theorem exists_hoistTarget (h : IsWithin t b) :
    ∃ f, (t.outline.record [] .empty).frames[b.hoistTarget]? = some f ∧ f.kind.isFunctionLike = true := by
  obtain ⟨f, hf, hkind⟩ := h.hoisted.rooted.exists_hoistTarget b.stack
  obtain ⟨more, hmore⟩ := h.frames
  refine ⟨f, ?_, hkind⟩
  rw [← hmore, hoistTarget, List.getElem?_append_left (List.getElem?_eq_some_iff.1 hf).1, hf]

/-- The builder looks along its stack where the finished tree looks along the chain. -/
private theorem hoistTarget_eq (h : IsWithin t b) : b.hoistTarget = (ScopeTree.ofTree t).functionScopeOf b.current := by
  obtain ⟨rest, hrest⟩ := h.exists_stack
  have hopen : b.record.IsOpen b.stack := h.linked.isOpen (by simp [hrest])
  have hlater : (t.outline.record [] .empty).hoistTarget b.stack = b.hoistTarget :=
    ScopeRecord.home_of_frames h.frames hopen .varName
  have hlast : b.stack.getLastD b.current = 0 := by
    rw [List.getLastD_eq_getLast?, h.getLast?_stack, Option.getD_some]
  rw [← hlater, ScopeTree.functionScopeOf, ← h.stack_eq_chain_ofTree, hlast]
  rfl

end IsWithin

/-- In front of the file and behind it no region is open, and both fall back on the file. -/
private theorem hoistTarget_of_nil (h : b.stack = []) :
    b.hoistTarget = (ScopeTree.ofTree t).functionScopeOf b.current := by
  obtain ⟨s, hs, hkind, hparent⟩ := ScopeTree.file_ofTree t
  have hchain : Scope.chain (ScopeTree.ofTree t).scopes 0 = [0] := Scope.chain_of_root hs hparent
  have hcurrent : b.current = 0 := by simp [current, h, ScopeRecord.current]
  rw [hoistTarget, h, hcurrent, ScopeTree.functionScopeOf, hchain]
  simp [ScopeRecord.hoistTarget, hs, hkind, ScopeKind.isFunctionLike]

private theorem run_outline (t : Tree) : start.run t.outline.steps = ⟨t.outline.record [] .empty, [], []⟩ :=
  run_steps t.outline start

private theorem hoistTarget_run (h : t.outline.steps = front ++ back) :
    (start.run front).hoistTarget = (ScopeTree.ofTree t).functionScopeOf (start.run front).current := by
  by_cases hfront : front = []
  · subst hfront
    exact hoistTarget_of_nil rfl
  · by_cases hback : back = []
    · rw [hback, List.append_nil] at h
      rw [← h]
      exact hoistTarget_of_nil (congrArg stack (run_outline t))
    · exact (isWithin_run h hfront hback).hoistTarget_eq

private theorem ne_nil_of_declare {kind : BindingKind}
    (h : t.outline.steps = front ++ .declare kind name site :: back) :
    front ≠ [] := by
  rintro rfl
  cases (List.cons.inj h).1

/-- Every declaration by `var` on the way ends up in the region to which it is hoisted. -/
private theorem exists_hasSite (h : t.outline.steps = front ++ .declare .varName name site :: back) :
    ∃ id, (t.outline.record [] .empty).HasSite ((ScopeTree.ofTree t).functionScopeOf (start.run front).current)
      name site id := by
  have hfront := ne_nil_of_declare h
  have hwithin := isWithin_run h hfront (List.cons_ne_nil _ _)
  obtain ⟨inner, rest, hparts, rfl, hrest⟩ := exists_split h hfront (List.cons_ne_nil _ _)
  obtain ⟨rest, rfl⟩ : ∃ ahead, rest = .declare .varName name site :: ahead := by
    cases rest with
    | nil => cases (List.cons.inj hrest).1
    | cons s ahead => exact ⟨ahead, by rw [(List.cons.inj hrest).1]⟩
  have hopen := staysOpen_inFile t
  have hlast := record_inFile t
  rw [hparts] at hopen hlast
  -- right behind the step the binding has the site, and the steps that follow keep that
  obtain ⟨id, hid⟩ := hwithin.sound.exists_hasSite _ .varName name site
  have hkept := (ScopeRecord.HasSite.kept _ name site id).run (hwithin.linked.apply (.declare .varName name site))
    hopen.append_right.tail hid
  refine ⟨id, ?_⟩
  rw [← hwithin.hoistTarget_eq, ← hlast, run_append]
  exact hkept

end ScopeBuilder

/-! ### The whole scope tree -/

namespace ScopeTree

variable {t : Tree} {around : List Region} {name : String} {site site' : Site} {front back : List Step}

/-- The region has the name in its table, for a binding of its own that is declared at the site. -/
def DeclaresAt (t : ScopeTree) (scope : Nat) (name : String) (site : Site) (id : Nat) : Prop :=
  ∃ s b, t.scopes[scope]? = some s ∧ s.lookup name = some id ∧ t.bindings[id]? = some b ∧ b.scope = scope ∧
    b.name = name ∧ site ∈ b.sites

private theorem declaresAt_of_hasSite {scope id : Nat} (h : (t.outline.record [] .empty).HasSite scope name site id) :
    (ofTree t).DeclaresAt scope name site id := by
  have hsound := ScopeRecord.sound_outline t
  obtain ⟨b, hb, rfl, rfl, hsite⟩ := h
  have hs := Array.getElem?_eq_getElem (hsound.scope_lt hb)
  exact ⟨_, b, hs, (hsound.lookup_iff hs b.name id).2 ⟨b, hb, rfl, rfl⟩, hb, rfl, rfl, hsite⟩

theorem DeclaresAt.eq {t : ScopeTree} {scope i j : Nat} (h : t.DeclaresAt scope name site i)
    (h' : t.DeclaresAt scope name site' j) : i = j := by
  obtain ⟨s, -, hs, hi, -⟩ := h
  obtain ⟨s', -, hs', hj, -⟩ := h'
  obtain rfl : s = s' := Option.some.inj (hs.symm.trans hs')
  exact Option.some.inj (hi.symm.trans hj)

private theorem exists_functionLike_of_frame {id : Nat}
    (h : ∃ f, (t.outline.record [] .empty).frames[id]? = some f ∧ f.kind.isFunctionLike = true) :
    ∃ s, (ofTree t).scopes[id]? = some s ∧ (s.kind = .file ∨ s.kind = .function) := by
  obtain ⟨f, hf, hkind⟩ := h
  rw [ScopeRecord.getElem?_frames] at hf
  obtain ⟨s, hs, rfl⟩ := Option.map_eq_some_iff.1 hf
  exact ⟨s, hs, ScopeKind.isFunctionLike_iff.1 hkind⟩

private theorem hoisted_outline (t : Tree) : ScopeRecord.Hoisted (t.outline.record [] .empty) := by
  have hopen : (ScopeRecord.empty.openScope [] .file t.root.fullSpan).IsOpen [0] := .openScope (by simp) .file _
  refine (ScopeRecord.Kept.record.recordAll ScopeRecord.Hoisted.kept _ [0] _ (fun _ _ => trivial) hopen ?_).1
  exact ScopeRecord.hoisted_file t.root.fullSpan

/-- Of numbers and of the regions behind them, the same one is the first function. -/
private theorem find?_of_map {scopes : Array Scope} : ∀ {ids : List Nat} {around : List Region},
    ids.map (fun id => scopes[id]?.map Scope.region) = around.map some →
      (ids.find? fun id => scopes[id]?.any (·.kind.isFunctionLike)).bind (fun id => scopes[id]?.map Scope.region) =
        around.find? (·.kind.isFunctionLike)
  | [], [], _ => rfl
  | id :: ids, r :: around, h => by
    obtain ⟨hfirst, hrest⟩ := List.cons.inj h
    obtain ⟨s, hs, rfl⟩ := Option.map_eq_some_iff.1 hfirst
    rw [List.find?_cons, List.find?_cons, hs, Option.any_some, Scope.region]
    cases s.kind.isFunctionLike with
    | true => exact hfirst
    | false => exact find?_of_map hrest

private theorem map_region_stack (h : t.outline.steps = front ++ back) :
    (ScopeBuilder.start.run front).stack.map (fun id => (ofTree t).scopes[id]?.map Scope.region) =
      (ScopeBuilder.openAfter [] front).map some := by
  have hframes : (ScopeBuilder.start.run front).record.frames <+: (t.outline.record [] .empty).frames := by
    have hgrows := ScopeBuilder.frames_run (ScopeBuilder.start.run front) back
    rwa [← ScopeBuilder.run_append, ← h, ScopeBuilder.run_outline] at hgrows
  have hstart : ScopeBuilder.start.stack.map (fun id => (t.outline.record [] .empty).frames[id]?.map Frame.region) =
      ([] : List Region).map some := rfl
  have hregions := ScopeBuilder.region_run hframes hstart
  simp only [ScopeRecord.getElem?_frames, Option.map_map] at hregions
  exact hregions

private theorem openAfter_eq_iff (h : t.outline.steps = front ++ back) : ScopeBuilder.openAfter [] front = around ↔
    (ScopeBuilder.start.run front).stack.map (fun id => (ofTree t).scopes[id]?.map Scope.region) = around.map some := by
  rw [map_region_stack h]
  exact (List.map_injective_iff.2 fun _ _ => Option.some.inj).eq_iff.symm

/-- The declarations by `var` of the tree are those on the way through it, inside the same regions. -/
private theorem declaresVar_iff_exists_step : t.DeclaresVar around name site ↔
    ∃ front back, t.outline.steps = front ++ .declare .varName name site :: back ∧
      (ScopeBuilder.start.run front).stack.map (fun id => (ofTree t).scopes[id]?.map Scope.region) =
        around.map some := by
  rw [Tree.declaresVar_iff, Outline.mem_placed_iff]
  refine exists_congr fun front => exists_congr fun back => and_congr_right fun h => ?_
  exact openAfter_eq_iff h

/-- What is declared by `var` belongs to the first function, or the file, of the regions that are open. -/
private theorem region_functionScopeOf (h : t.outline.steps = front ++ back) (hfront : front ≠ []) (hback : back ≠ [])
    (hstack : (ScopeBuilder.start.run front).stack.map (fun id => (ofTree t).scopes[id]?.map Scope.region) =
      around.map some) :
    (ofTree t).scopes[(ofTree t).functionScopeOf (ScopeBuilder.start.run front).current]?.map Scope.region =
      around.find? (·.kind.isFunctionLike) := by
  have hwithin := ScopeBuilder.isWithin_run h hfront hback
  rw [← find?_of_map hstack, functionScopeOf, ← hwithin.stack_eq_chain_ofTree]
  cases hfind : (ScopeBuilder.start.run front).stack.find? fun id =>
      (ofTree t).scopes[id]?.any (·.kind.isFunctionLike) with
  | some id => rfl
  | none =>
    -- the file is at the bottom of the stack
    obtain ⟨s, hs, hkind, -⟩ := file_ofTree t
    have hzero := List.find?_eq_none.1 hfind 0 (List.mem_of_getLast? hwithin.getLast?_stack)
    simp [hs, hkind, ScopeKind.isFunctionLike] at hzero

/-- Hoisting on the way through a file, next to its finished scope tree. A point of the way is given by the steps in
front of it and those behind it. -/
structure HoistingAgrees (t : Tree) : Prop where
  /-- The steps build the finished tree, and all regions are left in the end. -/
  finish : ofRecord (ScopeBuilder.start.run t.outline.steps).record = ofTree t ∧
    (ScopeBuilder.start.run t.outline.steps).stack = []
  file : ∃ s, (ofTree t).scopes[0]? = some s ∧ s.kind = .file ∧ s.parent = none
  /-- Inside the file, the stack is the chain of the innermost region, as it is known by then and in the finished tree.
  The file is at its bottom. -/
  chain : ∀ front back, t.outline.steps = front ++ back → front ≠ [] → back ≠ [] →
    let b := ScopeBuilder.start.run front
    b.stack = Scope.chain b.record.scopes b.current ∧ b.stack = Scope.chain (ofTree t).scopes b.current ∧
      b.stack.getLast? = some 0
  target : ∀ front back, t.outline.steps = front ++ back →
    let b := ScopeBuilder.start.run front
    b.hoistTarget = (ofTree t).functionScopeOf b.current
  binding : ∀ (id : Nat) (b : Binding), (ofTree t).bindings[id]? = some b → b.kind = .varName →
    ∃ s, (ofTree t).scopes[b.scope]? = some s ∧ (s.kind = .file ∨ s.kind = .function)
  /-- A name is declared by `var` inside some regions just if one comes to its declaration with these on the stack. -/
  declares : ∀ around name site, t.DeclaresVar around name site ↔
    ∃ front back, t.outline.steps = front ++ .declare .varName name site :: back ∧
      (ScopeBuilder.start.run front).stack.map (fun id => (ofTree t).scopes[id]?.map Scope.region) = around.map some
  /-- The region to which one hoists is the first function, or the file, of those on the stack. -/
  nearest : ∀ front back (around : List Region), t.outline.steps = front ++ back → front ≠ [] → back ≠ [] →
    let b := ScopeBuilder.start.run front
    b.stack.map (fun id => (ofTree t).scopes[id]?.map Scope.region) = around.map some →
      (ofTree t).scopes[(ofTree t).functionScopeOf b.current]?.map Scope.region =
        around.find? (·.kind.isFunctionLike)
  /-- What is declared by `var` on the way has a binding there. -/
  declared : ∀ front back name site, t.outline.steps = front ++ .declare .varName name site :: back →
    let home := (ofTree t).functionScopeOf (ScopeBuilder.start.run front).current
    (∃ s, (ofTree t).scopes[home]? = some s ∧ (s.kind = .file ∨ s.kind = .function)) ∧
      ∃ id, (ofTree t).DeclaresAt home name site id
  /-- Two declarations of one name that are hoisted to the same region have the same binding. -/
  shared : ∀ front back front' back' name site site', t.outline.steps = front ++ .declare .varName name site :: back →
    t.outline.steps = front' ++ .declare .varName name site' :: back' →
    let home := (ofTree t).functionScopeOf (ScopeBuilder.start.run front).current
    (ofTree t).functionScopeOf (ScopeBuilder.start.run front').current = home →
    ∃ id, (ofTree t).DeclaresAt home name site id ∧ (ofTree t).DeclaresAt home name site' id

theorem hoisting_agrees_with_finished_tree (t : Tree) : HoistingAgrees t where
  finish := by
    rw [ScopeBuilder.run_outline]
    exact ⟨rfl, rfl⟩
  file := file_ofTree t
  chain front back h hfront hback := by
    have hwithin := ScopeBuilder.isWithin_run h hfront hback
    exact ⟨hwithin.stack_eq_chain hwithin.hoisted.rooted.descends List.prefix_rfl, hwithin.stack_eq_chain_ofTree,
      hwithin.getLast?_stack⟩
  target front back h := ScopeBuilder.hoistTarget_run h
  binding id b hb hvar := exists_functionLike_of_frame ((hoisted_outline t).binding hb hvar)
  declares _ _ _ := declaresVar_iff_exists_step
  nearest front back around h hfront hback hstack := region_functionScopeOf h hfront hback hstack
  declared front back name site h := by
    have hwithin := ScopeBuilder.isWithin_run h (ScopeBuilder.ne_nil_of_declare h) (List.cons_ne_nil _ _)
    obtain ⟨id, hid⟩ := ScopeBuilder.exists_hasSite h
    refine ⟨?_, id, declaresAt_of_hasSite hid⟩
    rw [← hwithin.hoistTarget_eq]
    exact exists_functionLike_of_frame hwithin.exists_hoistTarget
  shared front back front' back' name site site' h h' := by
    intro home hsame
    obtain ⟨id, hid⟩ := ScopeBuilder.exists_hasSite h
    obtain ⟨id', hid'⟩ := ScopeBuilder.exists_hasSite h'
    have hsite := declaresAt_of_hasSite hid
    have hsite' := declaresAt_of_hasSite hid'
    rw [hsame] at hsite'
    obtain rfl := hsite.eq hsite'
    exact ⟨id, hsite, hsite'⟩

end ScopeTree

end ScriptTidy
