import Mathlib.Data.List.Nodup
import ScriptTidy.Rule.Casing
import ScriptTidy.Proofs.Names.Renaming
import ScriptTidy.Proofs.Names.Resolution
import ScriptTidy.Proofs.Syntax.Nesting

/-!
# Renames to camel case capture nothing

`renames` lists what the rule on names wants to rename, in the order of the bindings; the proposal is read off it
(`propose_eq`). The new names are planned one after the other, each different from those planned before and from every
identifier of the file. So they are fresh for the scope tree, where every name that is declared or referred to is the
text of an identifier, and the renamed tree is coherent again: every reference keeps its meaning.
-/

namespace ScriptTidy

/-- Wherever the tree declares a name, an identifier stands. -/
def Tree.DeclaresIdentifiers (t : Tree) : Prop :=
  ∀ b ∈ (ScopeTree.ofTree t).bindings, ∀ site ∈ b.sites,
    ∃ n ∈ t.root.nodes, n.kind.isIdentifier = true ∧ n.span = site.span

namespace Proposal

@[simp] theorem edits_append (p q : Proposal) : (p ++ q).edits = p.edits ++ q.edits := rfl

@[simp] theorem count_append (p q : Proposal) : (p ++ q).count = p.count + q.count := rfl

@[simp] theorem changes_append (p q : Proposal) : (p ++ q).changes = p.changes ++ q.changes := rfl

end Proposal

namespace Casing

/-- A binding that gets a new name. -/
structure Rename where
  binding : Binding
  new : String

namespace Rename

/-- The edits that carry out a rename. -/
def edits (f : Facts) (r : Rename) : List Edit :=
  (renameSites f r.binding).map (renameEdit r.binding.name r.new)

/-- The rename in words. -/
def text (r : Rename) : String := s!"{r.binding.name} -> {r.new}"

end Rename

/-- The renames of some bindings, when some new names are already planned. -/
def renamesFrom (f : Facts) (taken : List String) : List Binding → List Rename
  | [] => []
  | b :: rest =>
    if concerns f b then
      match plan f taken b with
      | .ok new => ⟨b, new⟩ :: renamesFrom f (new :: taken) rest
      | .error _ => renamesFrom f taken rest
    else renamesFrom f taken rest

/-- The renames of a file. -/
def renames (f : Facts) : List Rename := renamesFrom f [] f.scopes.bindings.toList

/-- The new name of binding `id`, if the renames give it one. -/
def newName? (rs : List Rename) (id : Nat) : Option String := (rs.find? (·.binding.id = id)).map (·.new)

/-! ### The proposal is read off the renames -/

private theorem proposeFrom_eq (f : Facts) (taken : List String) (bs : List Binding) :
    (proposeFrom f taken bs).edits = (renamesFrom f taken bs).flatMap (Rename.edits f) ∧
    (proposeFrom f taken bs).count = (renamesFrom f taken bs).length ∧
    (proposeFrom f taken bs).changes = (renamesFrom f taken bs).map Rename.text := by
  fun_induction renamesFrom f taken bs with
  | case1 => exact ⟨rfl, rfl, rfl⟩
  | case2 taken b rest hb new hnew ih =>
    obtain ⟨hedits, hcount, hchanges⟩ := ih
    simp only [proposeFrom, if_pos hb, hnew, Proposal.edits_append, Proposal.count_append, Proposal.changes_append,
      hedits, hcount, hchanges, List.flatMap_cons, List.length_cons, List.map_cons]
    exact ⟨rfl, Nat.add_comm _ _, rfl⟩
  | case3 taken b rest hb obstacle hobstacle ih =>
    obtain ⟨hedits, hcount, hchanges⟩ := ih
    simp only [proposeFrom, if_pos hb, hobstacle, Proposal.edits_append, Proposal.count_append,
      Proposal.changes_append, hedits, hcount, hchanges]
    exact ⟨rfl, Nat.zero_add _, rfl⟩
  | case4 taken b rest hb ih =>
    simpa only [proposeFrom, if_neg hb] using ih

/-- Edits, count and changes of the proposal are those of the renames. -/
theorem propose_eq (f : Facts) :
    (propose f).edits = (renames f).flatMap (Rename.edits f) ∧
    (propose f).count = (renames f).length ∧
    (propose f).changes = (renames f).map Rename.text :=
  proposeFrom_eq f [] _

/-! ### New names are fresh -/

/-- A binding gets a new name that is the camel-case form of the old one, is no identifier of the file and is not
planned yet. -/
theorem plan_eq_ok {f : Facts} {taken : List String} {b : Binding} {new : String}
    (h : plan f taken b = .ok new) :
    new = CamelCase.ofName b.name ∧ f.usage.contains new = false ∧ new ∉ taken := by
  unfold plan at h
  dsimp only at h
  repeat' split at h
  all_goals try cases h
  rename_i hused
  simp only [Bool.or_eq_true, not_or, Bool.not_eq_true, List.contains_eq_mem, decide_eq_false_iff_not] at hused
  exact ⟨rfl, hused⟩

private theorem renamesFrom_fresh (f : Facts) (taken : List String) (bs : List Binding) :
    ((renamesFrom f taken bs).map (·.new)).Nodup ∧
    ∀ r ∈ renamesFrom f taken bs, f.usage.contains r.new = false ∧ r.new ∉ taken := by
  fun_induction renamesFrom f taken bs with
  | case1 => simp
  | case2 taken b rest hb new hnew ih =>
    obtain ⟨hnodup, hfresh⟩ := ih
    obtain ⟨-, hunused, huntaken⟩ := plan_eq_ok hnew
    refine ⟨?_, ?_⟩
    · rw [List.map_cons, List.nodup_cons]
      refine ⟨?_, hnodup⟩
      intro hmem
      -- the names behind avoid all that is taken, and by then `new` is
      obtain ⟨r, hr, hrnew⟩ := List.mem_map.1 hmem
      exact (hfresh r hr).2 (hrnew ▸ .head _)
    · intro r hr
      rcases List.mem_cons.1 hr with rfl | hr
      · exact ⟨hunused, huntaken⟩
      · exact ⟨(hfresh r hr).1, fun hmem => (hfresh r hr).2 (.tail _ hmem)⟩
  | case3 taken b rest hb obstacle hobstacle ih => exact ih
  | case4 taken b rest hb ih => exact ih

/-- Renames are of some of the bindings, in their order. -/
theorem renamesFrom_sublist (f : Facts) (taken : List String) (bs : List Binding) :
    ((renamesFrom f taken bs).map (·.binding)).Sublist bs := by
  fun_induction renamesFrom f taken bs with
  | case1 => exact .slnil
  | case2 taken b rest hb new hnew ih => exact ih.cons_cons _
  | case3 taken b rest hb obstacle hobstacle ih => exact ih.cons _
  | case4 taken b rest hb ih => exact ih.cons _

theorem binding_mem_of_mem_renames {f : Facts} {r : Rename} (h : r ∈ renames f) : r.binding ∈ f.scopes.bindings :=
  Array.mem_toList_iff.1 ((renamesFrom_sublist f [] _).subset (List.mem_map_of_mem h))

theorem getElem?_of_mem_renames {t : Tree} {settings : Settings} {r : Rename} (h : r ∈ renames (.ofTree t settings)) :
    (ScopeTree.ofTree t).bindings[r.binding.id]? = some r.binding := by
  obtain ⟨i, hi⟩ := Array.getElem?_of_mem (binding_mem_of_mem_renames h)
  rwa [ScopeTree.id_ofTree hi]

/-- No binding is renamed twice. -/
theorem nodup_ids_renames (t : Tree) (settings : Settings) :
    ((renames (.ofTree t settings)).map (·.binding.id)).Nodup := by
  have hsub := (renamesFrom_sublist (.ofTree t settings) [] (ScopeTree.ofTree t).bindings.toList).map (·.id)
  rw [List.map_map, ScopeTree.map_id_bindings] at hsub
  exact hsub.nodup List.nodup_range

theorem mem_of_newName? {rs : List Rename} {id : Nat} {new : String} (h : newName? rs id = some new) :
    ∃ r ∈ rs, r.binding.id = id ∧ r.new = new := by
  obtain ⟨r, hr, rfl⟩ := Option.map_eq_some_iff.1 h
  exact ⟨r, List.mem_of_find?_eq_some hr, by simpa using List.find?_some hr, rfl⟩

theorem newName?_of_mem {rs : List Rename} (hids : (rs.map (·.binding.id)).Nodup) {r : Rename} (h : r ∈ rs) :
    newName? rs r.binding.id = some r.new := by
  cases hfind : rs.find? (·.binding.id = r.binding.id) with
  | none => exact absurd rfl (of_decide_eq_false (Bool.eq_false_iff.2 (List.find?_eq_none.1 hfind r h)))
  | some r' =>
    have hid : r'.binding.id = r.binding.id := by simpa using List.find?_some hfind
    rw [newName?, hfind, List.inj_on_of_nodup_map hids (List.mem_of_find?_eq_some hfind) h hid]
    rfl

/-- In a tree that declares identifiers, every declared name is the text of an identifier. -/
private theorem contains_of_binding {t : Tree} (h : t.DeclaresIdentifiers) {i : Nat} {b : Binding}
    (hb : (ScopeTree.ofTree t).bindings[i]? = some b) : (Usage.ofTree t).contains b.name = true := by
  have hsound := ScopeRecord.sound_outline t
  obtain ⟨site, hsite⟩ := List.exists_mem_of_ne_nil _ (hsound.sites_ne_nil hb)
  obtain ⟨kind, hmention⟩ := hsound.sites_mentioned hb site hsite
  -- the node that was read here may be of any kind, but an identifier has the same span and so the same text
  obtain ⟨m, -, hmspan, hmtext⟩ := mentions_outline hmention
  obtain ⟨n, hn, hk, hspan⟩ := h b (Array.mem_of_getElem? hb) site hsite
  have htext : n.text t.source = b.name := by
    rw [← hmtext, Node.text, Node.text, hspan, hmspan]
  exact Usage.contains_ofTree_iff.2 ⟨n, hn, hk, htext⟩

/-- Every name that is referred to is the text of an identifier. -/
private theorem contains_of_reference {t : Tree} {k : Nat} {r : Reference}
    (hr : (ScopeTree.ofTree t).references[k]? = some r) : (Usage.ofTree t).contains r.name = true := by
  simp only [ScopeTree.ofTree, ScopeTree.ofRecord, Array.getElem?_map, Option.map_eq_some_iff] at hr
  obtain ⟨r₀, hr₀, rfl⟩ := hr
  obtain ⟨n, hn, hk, -, htext⟩ := mentions_outline ((ScopeRecord.sound_outline t).references_mentioned hr₀)
  exact Usage.contains_ofTree_iff.2 ⟨n, hn, hk, htext⟩

/-- The planned names are fresh for the scope tree. -/
private theorem fresh_renames {t : Tree} (settings : Settings) (h : t.DeclaresIdentifiers) :
    (ScopeTree.ofTree t).Fresh (newName? (renames (.ofTree t settings))) := by
  obtain ⟨hnodup, hfresh⟩ := renamesFrom_fresh (.ofTree t settings) [] (ScopeTree.ofTree t).bindings.toList
  have hunused : ∀ {i : Nat} {new : String}, newName? (renames (.ofTree t settings)) i = some new →
      (Usage.ofTree t).contains new = false := by
    intro i new hi
    obtain ⟨r, hr, -, rfl⟩ := mem_of_newName? hi
    exact (hfresh r hr).1
  refine ⟨?_, ?_, ?_⟩
  · intro i j new hi hj
    obtain ⟨r, hr, rfl, hrnew⟩ := mem_of_newName? hi
    obtain ⟨r', hr', rfl, hrnew'⟩ := mem_of_newName? hj
    rw [List.inj_on_of_nodup_map hnodup hr hr' (hrnew.trans hrnew'.symm)]
  · rintro i b new bd hi hb rfl
    have := contains_of_binding h hb
    rw [hunused hi] at this
    cases this
  · rintro i k new r hi hr rfl
    have := contains_of_reference hr
    rw [hunused hi] at this
    cases this

/-! ### No capture -/

/-- Carry out all renames of a file at once: the new names are different from each other and from all identifiers, no
region gets two bindings of one name, and every reference, under its old name or its new one, means the same binding
as before or none as before. -/
theorem renames_capture_nothing (tree : Tree) (settings : Settings) (h : tree.DeclaresIdentifiers) :
    let f := Facts.ofTree tree settings
    let new := newName? (renames f)
    let after := f.scopes.rename new
    -- the renames are all that the rule proposes
    ((propose f).edits = (renames f).flatMap (Rename.edits f) ∧
      (propose f).count = (renames f).length ∧
      (propose f).changes = (renames f).map Rename.text) ∧
    (∀ r ∈ renames f, f.scopes.bindings[r.binding.id]? = some r.binding ∧
      after.bindings[r.binding.id]? = some { r.binding with name := r.new }) ∧
    ((renames f).map (·.new)).Nodup ∧
    (∀ r ∈ renames f, ∀ n ∈ tree.root.nodes, n.kind.isIdentifier = true → n.text tree.source ≠ r.new) ∧
    (∀ scope name i j, Declares after.bindings scope name i → Declares after.bindings scope name j → i = j) ∧
    (∀ (k : Nat) (r : Reference), f.scopes.references[k]? = some r →
      ∃ r', after.references[k]? = some r' ∧ r'.scope = r.scope ∧ r'.name = (r.binding.bind new).getD r.name ∧
        after.resolve r'.scope r'.name = f.scopes.resolve r.scope r.name) := by
  intro f new after
  obtain ⟨hnodup, hunused⟩ := renamesFrom_fresh f [] f.scopes.bindings.toList
  have hbefore : f.scopes.Coherent := ScopeTree.coherent_ofTree tree
  have hafter : after.Coherent := hbefore.rename (fresh_renames settings h)
  refine ⟨propose_eq f, ?_, hnodup, ?_, ?_, ?_⟩
  · intro r hr
    have hb : f.scopes.bindings[r.binding.id]? = some r.binding := getElem?_of_mem_renames hr
    have hnew : new r.binding.id = some r.new := newName?_of_mem (nodup_ids_renames tree settings) hr
    refine ⟨hb, ?_⟩
    rw [ScopeTree.getElem?_bindings_rename, hb, Option.map_some, hnew]
    rfl
  · intro r hr n hn hk htext
    have hused : f.usage.contains r.new = true := Usage.contains_ofTree_iff.2 ⟨n, hn, hk, htext⟩
    rw [(hunused r hr).1] at hused
    cases hused
  · exact fun _ _ _ _ hi hj => hafter.eq_of_declares hi hj
  · intro k r hr
    have hr' : after.references[k]? = some { r with name := (r.binding.bind new).getD r.name } := by
      rw [ScopeTree.getElem?_references_rename, hr]
      rfl
    refine ⟨_, hr', rfl, rfl, ?_⟩
    exact (hafter.binding_eq hr').symm.trans (hbefore.binding_eq hr)

/-- The same name is declared twice, once inside and once outside of a block, and used in both places. -/
def shadowed : Tree where
  source := "let my_a; { let my_a; f(my_a); } f(my_a);"
  dialect := .javascript
  root := BareNode.place 0 <| .regular .program none 0 41
    [.byLet 0 9 [.uninitialized 4 8],
     .braced .statementBlock none 10 32 [.byLet 12 21 [.uninitialized 16 20], .called 22 23 29],
     .called 33 34 40]

/-- Only the outer of the two bindings gets the new name, and the use inside goes on to mean the inner one. -/
theorem renames_capture_nothing_shadowed :
    shadowed.DeclaresIdentifiers ∧
    (renames (.ofTree shadowed .standard)).map Rename.text = ["my_a -> myA"] ∧
    let f := Facts.ofTree shadowed .standard
    let new := newName? (renames f)
    let after := f.scopes.rename new
    ∀ (k : Nat) (r : Reference), f.scopes.references[k]? = some r →
      ∃ r', after.references[k]? = some r' ∧ r'.scope = r.scope ∧ r'.name = (r.binding.bind new).getD r.name ∧
        after.resolve r'.scope r'.name = f.scopes.resolve r.scope r.name := by
  have h : shadowed.DeclaresIdentifiers := by
    unfold Tree.DeclaresIdentifiers
    decide +kernel
  obtain ⟨-, -, -, -, -, hresolve⟩ := renames_capture_nothing shadowed .standard h
  exact ⟨h, by decide +kernel, hresolve⟩

end Casing

end ScriptTidy
