import ScriptTidy.Proofs.Names.References
import ScriptTidy.Proofs.Rule.Casing

/-!
# Names after they are renamed

`renamed` is what the rule on names knows of a file once its edits are made: every place where a renamed binding is
declared or referred to carries the new name, shorthands are written out, and an export specifier that is written out
keeps the old name as an alias.

The new names are in camel case, so the rule is not about them any more. Every other binding meets the obstacle again
that it met before. That takes an argument only for a name in use: an identifier in camel case is never renamed
(`contains_renamed_of_camel`), and a new name that was only planned stands in the file by now
(`contains_renamed_of_new`). So the second proposal is read off the first, entry by entry (`proposeFrom_renamed`).
-/

namespace ScriptTidy

/-- The shape of an identifier when it is written out under its new name. -/
def Form.writtenOut : Form → Form
  | objectShorthand | patternShorthand | exportSpecifier => plain
  | form => form

def Site.writtenOut (s : Site) : Site := { s with form := s.form.writtenOut }

namespace ScopeTree

/-- Write out the declarations of the bindings with a new name, and the references to them. -/
def writeOut (t : ScopeTree) (new : Nat → Option String) : ScopeTree :=
  { t with
    bindings := t.bindings.mapIdx fun id b =>
      if (new id).isSome then { b with sites := b.sites.map Site.writtenOut } else b
    references := t.references.map fun r =>
      if (r.binding.bind new).isSome then { r with site := r.site.writtenOut } else r }

/-- The binding when it is renamed and written out. -/
def renamedBinding (new : Nat → Option String) (b : Binding) : Binding :=
  match new b.id with
  | some name => { b with name := name, sites := b.sites.map Site.writtenOut }
  | none => b

/-- The reference when the binding it means is renamed. -/
def renamedReference (new : Nat → Option String) (r : Reference) : Reference :=
  match r.binding.bind new with
  | some name => { r with name := name, site := r.site.writtenOut }
  | none => r

variable {t : ScopeTree} {new : Nat → Option String}

private theorem bindings_writeOut_rename (hids : ∀ (id : Nat) (b : Binding), t.bindings[id]? = some b → b.id = id) :
    ((t.rename new).writeOut new).bindings.toList = t.bindings.toList.map (renamedBinding new) := by
  refine List.ext_getElem? fun i => ?_
  simp only [List.getElem?_map, writeOut, rename, Array.getElem?_toList, Array.getElem?_mapIdx, Option.map_map]
  cases hb : t.bindings[i]? with
  | none => rfl
  | some b =>
    obtain rfl := hids i b hb
    simp only [Option.map_some, Function.comp_apply, renamedBinding]
    cases new b.id <;> simp

private theorem references_writeOut_rename (k : Nat) : ((t.rename new).writeOut new).references[k]? =
    t.references[k]?.map (renamedReference new) := by
  simp only [writeOut, rename, Array.getElem?_map, Option.map_map]
  refine congrArg (Option.map · _) (funext fun r => ?_)
  simp only [Function.comp_apply, renamedReference]
  cases r.binding.bind new <;> simp

private theorem referencesTo_writeOut_rename (id : Nat) :
    ((t.rename new).writeOut new).referencesTo id = (t.referencesTo id).map (renamedReference new) := by
  rw [referencesTo, referencesTo, List.map_filterMap]
  exact List.filterMap_congr fun k _ => references_writeOut_rename k

end ScopeTree

namespace Casing

/-- The rename that changes the identifier at a span. -/
def renameAt? (f : Facts) (span : Span) : Option Rename :=
  (renames f).find? fun r => (renameSites f r.binding).any (·.span = span)

/-- What stands in the place of an identifier after the renames: under its new name, and with the old name behind it
where an export specifier is written out. -/
def renamedOccurrence (f : Facts) (o : Occurrence) : List Occurrence :=
  match renameAt? f o.span with
  | none => [o]
  | some r =>
    { o with name := r.new } ::
      ((renameSites f r.binding).filter fun s => s.span = o.span ∧ s.form = .exportSpecifier).map fun _ =>
        ⟨r.binding.name, o.span, .refers⟩

/-- What is known of a file after the renames. Spans are those of the text before, as no rule on names looks at them. -/
def renamed (f : Facts) : Facts :=
  let new := newName? (renames f)
  { f with
    usage := .ofOccurrences (f.usage.occurrences.flatMap (renamedOccurrence f))
    scopes := (f.scopes.rename new).writeOut new }

variable {f : Facts} {taken : List String} {b : Binding}

/-! ### What is planned -/

private theorem isCamel_of_plan {new : String} (h : plan f taken b = .ok new) : CamelCase.isCamel new = true := by
  unfold plan at h
  dsimp only at h
  repeat' split at h
  all_goals try cases h
  rename_i hcamel _ _
  simpa using hcamel

/-- The same obstacle stands against a binding after a change that keeps its references, and keeps in use every name in
camel case that was in use or planned. -/
private theorem plan_of_error {f' : Facts} {obstacle : Obstacle} (h : plan f taken b = .error obstacle)
    (hsettings : f'.settings = f.settings) (hrefs : f'.scopes.referencesTo b.id = f.scopes.referencesTo b.id)
    (hused : ∀ name, CamelCase.isCamel name = true → f.usage.contains name = true ∨ name ∈ taken →
      f'.usage.contains name = true) :
    plan f' [] b = .error obstacle := by
  unfold plan at h ⊢
  rw [hsettings, hrefs]
  dsimp only at h ⊢
  split at h
  · rename_i hexported
    rw [if_pos hexported, h]
  · rename_i hexported
    rw [if_neg hexported]
    split at h
    · rename_i hmarkup
      rw [if_pos hmarkup, h]
    · rename_i hmarkup
      rw [if_neg hmarkup]
      split at h
      · rename_i hcamel
        rw [if_pos hcamel, h]
      · rename_i hcamel
        rw [if_neg hcamel]
        split at h
        · rename_i hreserved
          rw [if_pos hreserved, h]
        · rename_i hreserved
          rw [if_neg hreserved]
          split at h
          · rename_i hinUse
            have := hused (CamelCase.ofName b.name) (by simpa using hcamel) (by simpa using hinUse)
            rw [if_pos (by simp [this]), h]
          · cases h

/-- A rename is of a binding that the rule is about, to the camel-case form of its name. -/
private theorem spec_of_mem_renamesFrom (bs : List Binding) : ∀ r ∈ renamesFrom f taken bs,
    concerns f r.binding = true ∧ r.new = CamelCase.ofName r.binding.name ∧ CamelCase.isCamel r.new = true := by
  fun_induction renamesFrom f taken bs with
  | case1 => simp
  | case2 taken b rest hb new hnew ih =>
    intro r hr
    rcases List.mem_cons.1 hr with rfl | hr
    · exact ⟨hb, (plan_eq_ok hnew).1, isCamel_of_plan hnew⟩
    · exact ih r hr
  | case3 taken b rest hb obstacle hobstacle ih => exact ih
  | case4 taken b rest hb ih => exact ih

private theorem concerns_renamed : concerns (renamed f) b = concerns f b := rfl

private theorem not_isCamel_of_concerns (h : concerns f b = true) : CamelCase.isCamel b.name = false := by
  simp only [concerns, Bool.and_eq_true, Bool.not_eq_true'] at h
  exact h.1.2

private theorem not_concerns_of_isCamel (h : CamelCase.isCamel b.name = true) : concerns f b = false := by
  simp [concerns, h]

section Tree

variable {t : Tree} {settings : Settings}

/-- A binding that is passed over gets no new name. The renames of `done` are of bindings in front of it, and the others
of bindings behind it. -/
private theorem newName?_of_passed {front rest : List Binding} {done : List Rename}
    (hbindings : (ScopeTree.ofTree t).bindings.toList = front ++ b :: rest)
    (hrenames : renames (.ofTree t settings) = done ++ renamesFrom (.ofTree t settings) taken rest)
    (hdone : ∀ r ∈ done, r.binding ∈ front) : newName? (renames (.ofTree t settings)) b.id = none := by
  have hnodup : ((front ++ b :: rest).map (·.id)).Nodup := by
    rw [← hbindings, ScopeTree.map_id_bindings]
    exact List.nodup_range
  rw [List.map_append, List.nodup_append, List.map_cons, List.nodup_cons] at hnodup
  obtain ⟨-, ⟨hrest, -⟩, hfront⟩ := hnodup
  refine Option.eq_none_iff_forall_ne_some.2 fun new hnew => ?_
  obtain ⟨r, hr, hid, -⟩ := mem_of_newName? hnew
  rw [hrenames] at hr
  rcases List.mem_append.1 hr with hr | hr
  · exact hfront r.binding.id (List.mem_map_of_mem (hdone r hr)) b.id (.head _) hid
  · have hmem := (renamesFrom_sublist _ taken rest).subset (List.mem_map_of_mem hr)
    exact hrest (hid ▸ List.mem_map_of_mem hmem)

/-! ### Names that stand in the file -/

theorem renameSites_eq {r : Rename} (hr : r ∈ renames (.ofTree t settings)) :
    renameSites (.ofTree t settings) r.binding = r.binding.sites ++
      ((ScopeTree.ofTree t).references.toList.filter (·.binding = some r.binding.id)).map (·.site) := by
  have hlt := (Array.getElem?_eq_some_iff.1 (getElem?_of_mem_renames hr)).1
  rw [← ScopeTree.referencesTo_ofTree hlt]
  rfl

/-- What changes when a binding is renamed is where it is declared or referred to. -/
theorem mem_renameSites {r : Rename} (hr : r ∈ renames (.ofTree t settings)) {site : Site} :
    site ∈ renameSites (.ofTree t settings) r.binding ↔ site ∈ r.binding.sites ∨
      ∃ ref ∈ (ScopeTree.ofTree t).references, ref.binding = some r.binding.id ∧ ref.site = site := by
  rw [renameSites_eq hr, List.mem_append, List.mem_map]
  simp [List.mem_filter, and_assoc]

/-- Where a renamed binding is declared or referred to, its old name stands. -/
private theorem slice_of_renameSites {r : Rename} (hr : r ∈ renames (.ofTree t settings)) {s : Site}
    (hs : s ∈ renameSites (.ofTree t settings) r.binding) : slice t.source s.span = r.binding.name := by
  have hb := getElem?_of_mem_renames hr
  rcases (mem_renameSites hr).1 hs with hs | ⟨ref, href, hid, rfl⟩
  · exact ScopeTree.slice_of_site hb hs
  · rw [ScopeTree.slice_of_reference href, ScopeTree.name_of_reference href hid hb]

private theorem name_of_occurrence {o : Occurrence} (ho : o ∈ (Usage.ofTree t).occurrences) :
    o.name = slice t.source o.span := by
  obtain ⟨v, -, ho⟩ := List.mem_filterMap.1 ho
  unfold Usage.occurrence? at ho
  split at ho
  · obtain rfl := Option.some.inj ho
    rfl
  · cases ho

/-- A rename changes only identifiers of its old name. -/
private theorem name_of_renameAt? {o : Occurrence} (ho : o ∈ (Usage.ofTree t).occurrences) {r : Rename}
    (h : renameAt? (.ofTree t settings) o.span = some r) :
    r ∈ renames (.ofTree t settings) ∧ o.name = r.binding.name := by
  unfold renameAt? at h
  have hr := List.mem_of_find?_eq_some h
  have hany := List.find?_some h
  obtain ⟨s, hs, hspan⟩ := List.any_eq_true.1 hany
  rw [decide_eq_true_eq] at hspan
  exact ⟨hr, by rw [name_of_occurrence ho, ← hspan, slice_of_renameSites hr hs]⟩

/-- Identifiers in camel case keep their names. -/
theorem contains_renamed_of_camel {name : String} (hcamel : CamelCase.isCamel name = true)
    (h : (Usage.ofTree t).contains name = true) : (renamed (.ofTree t settings)).usage.contains name = true := by
  obtain ⟨o, ho, hname⟩ := List.any_eq_true.1 h
  rw [decide_eq_true_eq] at hname
  refine List.any_eq_true.2 ⟨o, List.mem_flatMap.2 ⟨o, ho, ?_⟩, by simpa using hname⟩
  unfold renamedOccurrence
  cases hat : renameAt? (.ofTree t settings) o.span with
  | none => simp
  | some r =>
    -- the old name is not in camel case
    obtain ⟨hr, hold⟩ := name_of_renameAt? ho hat
    have hnot := not_isCamel_of_concerns (spec_of_mem_renamesFrom _ r hr).1
    rw [← hold, hname, hcamel] at hnot
    cases hnot

/-- The new names stand where the renamed bindings are declared. -/
theorem contains_renamed_of_new (hids : t.DeclaresIdentifiers) {r : Rename} (hr : r ∈ renames (.ofTree t settings)) :
    (renamed (.ofTree t settings)).usage.contains r.new = true := by
  have hb := getElem?_of_mem_renames hr
  obtain ⟨site, hsite⟩ := List.exists_mem_of_ne_nil _ ((ScopeRecord.sound_outline t).sites_ne_nil hb)
  obtain ⟨n, hn, hk, hspan⟩ := hids r.binding (Array.mem_of_getElem? hb) site hsite
  obtain ⟨v, hv, rfl⟩ := List.mem_map.1 hn
  let o : Occurrence := ⟨v.node.text t.source, v.node.span, .ofVisit v⟩
  have ho : o ∈ (Usage.ofTree t).occurrences :=
    List.mem_filterMap.2 ⟨v, hv, by rw [Usage.occurrence?, if_pos hk]⟩
  have hat : (renameAt? (.ofTree t settings) o.span).isSome = true := by
    rw [renameAt?, List.find?_isSome]
    exact ⟨r, hr, List.any_eq_true.2 ⟨site, List.mem_append_left _ hsite, by simp [o, hspan]⟩⟩
  obtain ⟨r', hat⟩ := Option.isSome_iff_exists.1 hat
  -- another rename at the same place would be of the same name, and so to the same name
  obtain ⟨hr', hold'⟩ := name_of_renameAt? ho hat
  have hold : o.name = r.binding.name := by
    rw [name_of_occurrence ho, ← slice_of_renameSites hr (List.mem_append_left _ hsite), ← hspan]
  have hnew : r'.new = r.new := by
    rw [(spec_of_mem_renamesFrom _ r' hr').2.1, (spec_of_mem_renamesFrom _ r hr).2.1, ← hold', hold]
  refine List.any_eq_true.2 ⟨{ o with name := r'.new }, List.mem_flatMap.2 ⟨o, ho, ?_⟩, by simpa using hnew⟩
  rw [renamedOccurrence, hat]
  exact .head _

/-- The references to a binding that keeps its name stay as they are. -/
private theorem referencesTo_renamed {id : Nat} (hb : (ScopeTree.ofTree t).bindings[id]? = some b)
    (hnew : newName? (renames (.ofTree t settings)) id = none) :
    (renamed (.ofTree t settings)).scopes.referencesTo id = (ScopeTree.ofTree t).referencesTo id := by
  have hlt : id < (ScopeTree.ofTree t).bindings.size := (Array.getElem?_eq_some_iff.1 hb).1
  refine (ScopeTree.referencesTo_writeOut_rename id).trans ?_
  have hkeep : ∀ r ∈ (ScopeTree.ofTree t).referencesTo id,
      ScopeTree.renamedReference (newName? (renames (.ofTree t settings))) r = r := by
    intro r hr
    rw [ScopeTree.referencesTo_ofTree hlt] at hr
    have hid : r.binding = some id := by simpa using (List.mem_filter.1 hr).2
    rw [ScopeTree.renamedReference, hid, Option.bind_some, hnew]
  exact (List.map_congr_left hkeep).trans (List.map_id _)

/-! ### The second proposal -/

/-- The proposal on the renamed file, for the bindings behind those of `front`: it has no edits, and skips what the
first one skips. By then the renames of `done` are planned, all of bindings of `front`. -/
theorem proposeFrom_renamed (hids : t.DeclaresIdentifiers) {rest : List Binding} {taken : List String} :
    ∀ (front : List Binding) (done : List Rename), (ScopeTree.ofTree t).bindings.toList = front ++ rest →
      renames (.ofTree t settings) = done ++ renamesFrom (.ofTree t settings) taken rest →
      (∀ r ∈ done, r.binding ∈ front) → (∀ name ∈ taken, ∃ r ∈ done, r.new = name) →
      proposeFrom (renamed (.ofTree t settings)) []
          (rest.map (ScopeTree.renamedBinding (newName? (renames (.ofTree t settings))))) =
        ⟨[], 0, [], (proposeFrom (.ofTree t settings) taken rest).skipped⟩ := by
  fun_induction renamesFrom (.ofTree t settings) taken rest with
  | case1 => intros; rfl
  | case2 taken b rest hb new hnew ih =>
    intro front done hbindings hrenames hdone htaken
    have hmem : ⟨b, new⟩ ∈ renames (.ofTree t settings) := by simp [hrenames]
    have hname : newName? (renames (.ofTree t settings)) b.id = some new := newName?_of_mem (nodup_ids_renames ..) hmem
    have hrest := ih (front ++ [b]) (done ++ [⟨b, new⟩]) (by simp [hbindings]) (by simp [hrenames]) ?_ ?_
    · -- the new name is in camel case
      rw [List.map_cons, proposeFrom, if_neg, hrest]
      · simp [proposeFrom, hb, hnew]
        rfl
      · rw [not_concerns_of_isCamel]
        · simp
        · simpa [ScopeTree.renamedBinding, hname] using isCamel_of_plan hnew
    · intro r hr
      rcases List.mem_append.1 hr with hr | hr
      · exact List.mem_append_left _ (hdone r hr)
      · obtain rfl := List.mem_singleton.1 hr
        simp
    · intro name hname
      rcases List.mem_cons.1 hname with rfl | hname
      · exact ⟨_, List.mem_append_right _ (.head _), rfl⟩
      · obtain ⟨r, hr, hrname⟩ := htaken name hname
        exact ⟨r, List.mem_append_left _ hr, hrname⟩
  | case3 taken b rest hb obstacle hobstacle ih =>
    intro front done hbindings hrenames hdone htaken
    have hnone := newName?_of_passed hbindings hrenames hdone
    have hb' : (ScopeTree.ofTree t).bindings[b.id]? = some b := by
      have hmem : b ∈ (ScopeTree.ofTree t).bindings := Array.mem_toList_iff.1 (by simp [hbindings])
      obtain ⟨i, hi⟩ := Array.getElem?_of_mem hmem
      rwa [ScopeTree.id_ofTree hi]
    have hagain : plan (renamed (.ofTree t settings)) [] b = .error obstacle := by
      refine plan_of_error hobstacle rfl (referencesTo_renamed hb' hnone) fun name hcamel hused => ?_
      rcases hused with hused | hused
      · exact contains_renamed_of_camel hcamel hused
      · obtain ⟨r, hr, rfl⟩ := htaken name hused
        exact contains_renamed_of_new hids (by simp [hrenames, hr])
    have hsame : ScopeTree.renamedBinding (newName? (renames (.ofTree t settings))) b = b := by
      rw [ScopeTree.renamedBinding, hnone]
    have hrest := ih (front ++ [b]) done (by simp [hbindings]) hrenames
      (fun r hr => List.mem_append_left _ (hdone r hr)) htaken
    rw [List.map_cons, hsame, proposeFrom, concerns_renamed, if_pos hb, hagain, hrest, proposeFrom, if_pos hb,
      hobstacle]
    rfl
  | case4 taken b rest hb ih =>
    intro front done hbindings hrenames hdone htaken
    have hsame : ScopeTree.renamedBinding (newName? (renames (.ofTree t settings))) b = b := by
      rw [ScopeTree.renamedBinding, newName?_of_passed hbindings hrenames hdone]
    have hrest := ih (front ++ [b]) done (by simp [hbindings]) hrenames
      (fun r hr => List.mem_append_left _ (hdone r hr)) htaken
    rw [List.map_cons, hsame, proposeFrom, concerns_renamed, if_neg hb, hrest, proposeFrom, if_neg hb]

end Tree

/-- After its renames the rule on names has nothing to do, and leaves the same names alone for the same reasons as
before. -/
theorem renamed_names_are_left_alone (tree : Tree) (settings : Settings) (h : tree.DeclaresIdentifiers) :
    let f := Facts.ofTree tree settings
    propose (renamed f) = ⟨[], 0, [], (propose f).skipped⟩ := by
  intro f
  have hbindings : (renamed f).scopes.bindings.toList =
      f.scopes.bindings.toList.map (ScopeTree.renamedBinding (newName? (renames f))) :=
    ScopeTree.bindings_writeOut_rename fun _ _ => ScopeTree.id_ofTree
  rw [propose, hbindings]
  exact proposeFrom_renamed h [] [] rfl rfl (by simp) (by simp)

/-- Two names with the same form in camel case, of which the first is exported by name. -/
def colliding : Tree where
  source := "let my_a, my_A; export { my_a };"
  dialect := .javascript
  root := BareNode.place 0 <| .regular .program none 0 32
    [.byLet 0 15 [.uninitialized 4 8, .sign "," 8, .uninitialized 10 14], .exportingName 16 32]

/-- The first one takes the form of both. The old name stays in the file as an alias. -/
theorem renamed_names_are_left_alone_colliding :
    let f := Facts.ofTree colliding .standard
    colliding.DeclaresIdentifiers ∧
      (propose f).edits = [.replace ⟨4, 8⟩ "myA", .replace ⟨25, 29⟩ "myA as my_a"] ∧
      (renamed f).usage.occurrences.map (·.name) = ["myA", "my_A", "myA", "my_a"] ∧
      propose (renamed f) = ⟨[], 0, [], ["Skipped 'my_A': target name already in use"]⟩ := by
  intro f
  have h : colliding.DeclaresIdentifiers := by
    unfold Tree.DeclaresIdentifiers
    decide +kernel
  refine ⟨h, by decide +kernel, by decide +kernel, (renamed_names_are_left_alone colliding .standard h).trans ?_⟩
  have hskipped : (propose f).skipped = ["Skipped 'my_A': target name already in use"] := by decide +kernel
  rw [← hskipped]

end Casing

end ScriptTidy
