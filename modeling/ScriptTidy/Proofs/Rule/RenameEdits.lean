import ScriptTidy.Proofs.Edit.InPlace
import ScriptTidy.Proofs.Names.Sites
import ScriptTidy.Proofs.Rule.Renamed

/-!
# Every identifier is recorded once

In a nested tree the places where names are declared and referred to are apart, each holds the name that is recorded for
it, and a place leads back to its binding alone. So the edits of the rule on names are merged as they are: one
replacement for each place of each renamed binding (`identifiers_are_recorded_once`).
-/

namespace ScriptTidy

namespace ScopeTree

/-- The places of all bindings and references. -/
def places (s : ScopeTree) : List Span :=
  (s.bindings.toList.map (·.sites)).flatten.map (·.span) ++ s.references.toList.map (·.site.span)

private theorem places_ofRecord (d : ScopeRecord) : (ofRecord d).places = d.places := by
  simp [places, ScopeRecord.places, ofRecord, Function.comp_def]

section Nested

variable {t : Tree} (h : t.root.IsNested)
include h

theorem scattered_places : t.root.span.Scattered (ofTree t).places := by
  rw [ofTree, places_ofRecord]
  exact scattered_record h

/-- The places of a binding are found to be its own. -/
private theorem bindingAt?_eq_iff {i : Nat} {b : Binding} (hb : (ofTree t).bindings[i]? = some b) {site : Site}
    (hsite : site ∈ b.sites) (id : Nat) : (ofTree t).bindingAt? site.span = some id ↔
      ∃ c, (ofTree t).bindings[id]? = some c ∧ site ∈ c.sites := by
  rw [bindingAt?_eq h hb hsite rfl, Option.some.injEq]
  constructor
  · rintro rfl
    exact ⟨b, hb, hsite⟩
  · rintro ⟨c, hc, hsite'⟩
    exact (separate_ofTree h).eq_of_start hb hc hsite hsite' rfl

/-- No binding is found where a name is referred to. -/
private theorem bindingAt?_reference {r : Reference} (hr : r ∈ (ofTree t).references) :
    (ofTree t).bindingAt? r.site.span = none := by
  cases hat : (ofTree t).bindingAt? r.site.span with
  | none => rfl
  | some id =>
    have hseparate := separate_ofTree h
    obtain ⟨b, hb, site, hsite, hstart⟩ := hseparate.bindingAt hat
    have hbyte := hseparate.byte hb site hsite
    have hbyte' := (scattered_references h).byte _ (List.mem_map.2 ⟨r, Array.mem_toList_iff.2 hr, rfl⟩)
    rcases hseparate.references hb r hr site hsite with hapart | hapart <;> omega

end Nested

end ScopeTree

namespace Casing

variable {t : Tree} {settings : Settings}

theorem mem_edits_propose {e : Edit} : e ∈ (propose (.ofTree t settings)).edits ↔
    ∃ r ∈ renames (.ofTree t settings), ∃ site ∈ renameSites (.ofTree t settings) r.binding,
      renameEdit r.binding.name r.new site = e := by
  simp [(propose_eq _).1, Rename.edits]

section Nested

variable (h : t.root.IsNested)
include h

private theorem pairwise_renameSites {r : Rename} (hr : r ∈ renames (.ofTree t settings)) :
    (renameSites (.ofTree t settings) r.binding).Pairwise fun s s' => s.span.Apart s'.span := by
  have hseparate := ScopeTree.separate_ofTree h
  have hb := getElem?_of_mem_renames hr
  rw [renameSites_eq hr]
  refine List.pairwise_append.2 ⟨hseparate.sites hb, ?_, fun s hs s' hs' => ?_⟩
  · exact List.pairwise_map.2 ((List.pairwise_map.1 (ScopeTree.scattered_references h).apart).filter _)
  · obtain ⟨ref, href, rfl⟩ := List.mem_map.1 hs'
    exact hseparate.references hb ref (Array.mem_toList_iff.1 (List.mem_filter.1 href).1) s hs

/-- The places of two renamed bindings are apart. -/
private theorem apart_of_renameSites {r r' : Rename} (hr : r ∈ renames (.ofTree t settings))
    (hr' : r' ∈ renames (.ofTree t settings)) (hid : r.binding.id ≠ r'.binding.id) {s s' : Site}
    (hs : s ∈ renameSites (.ofTree t settings) r.binding)
    (hs' : s' ∈ renameSites (.ofTree t settings) r'.binding) : s.span.Apart s'.span := by
  have hseparate := ScopeTree.separate_ofTree h
  have hb := getElem?_of_mem_renames hr
  have hb' := getElem?_of_mem_renames hr'
  rcases (mem_renameSites hr).1 hs with hs | ⟨ref, href, hbinding, rfl⟩
  · rcases (mem_renameSites hr').1 hs' with hs' | ⟨ref', href', -, rfl⟩
    · exact hseparate.bindings hb hb' hid s hs s' hs'
    · exact hseparate.references hb ref' href' s hs
  · rcases (mem_renameSites hr').1 hs' with hs' | ⟨ref', href', hbinding', rfl⟩
    · exact (hseparate.references hb' ref href s' hs').symm
    · have hpair := List.pairwise_map.1 (ScopeTree.scattered_references h).apart
      rcases Span.eq_or_apart hpair (Array.mem_toList_iff.2 href) (Array.mem_toList_iff.2 href') with rfl | hapart
      · exact absurd (Option.some.inj (hbinding.symm.trans hbinding')) hid
      · exact hapart

/-- No two renames edit one place. -/
theorem pairwise_edits (settings : Settings) :
    (propose (.ofTree t settings)).edits.Pairwise fun a b => a.span.Apart b.span := by
  rw [(propose_eq _).1]
  refine List.pairwise_flatMap.2 ⟨fun r hr => List.pairwise_map.2 (pairwise_renameSites h hr), ?_⟩
  refine (List.pairwise_map.1 (nodup_ids_renames t settings)).imp_of_mem fun {r r'} hr hr' hid => ?_
  intro e he e' he'
  obtain ⟨s, hs, rfl⟩ := List.mem_map.1 he
  obtain ⟨s', hs', rfl⟩ := List.mem_map.1 he'
  exact apart_of_renameSites h hr hr' hid hs hs'

/-- Every edit takes out a byte. -/
theorem byte_of_mem_edits {e : Edit} (he : e ∈ (propose (.ofTree t settings)).edits) : e.start < e.stop := by
  obtain ⟨r, hr, site, hsite, rfl⟩ := mem_edits_propose.1 he
  rcases (mem_renameSites hr).1 hsite with hsite | ⟨ref, href, -, rfl⟩
  · exact (ScopeTree.separate_ofTree h).byte (getElem?_of_mem_renames hr) site hsite
  · exact (ScopeTree.scattered_references h).byte _ (List.mem_map.2 ⟨ref, Array.mem_toList_iff.2 href, rfl⟩)

end Nested

/-- In a nested tree the places where bindings are declared and names are referred to hold bytes and are apart. Each
holds the name that is recorded: that of the binding, and that of the reference, which is its binding's name too if it
has one. Where a binding is declared that binding is found and no other, and none where a name is referred to. So
merging the edits of the rule on names drops none: there is one replacement for each place where a renamed binding is
declared and for each reference to it. -/
theorem identifiers_are_recorded_once (tree : Tree) (settings : Settings) (h : tree.root.IsNested) :
    let s := ScopeTree.ofTree tree
    tree.root.span.Scattered s.places ∧
    (∀ (id : Nat) (b : Binding), s.bindings[id]? = some b → ∀ site ∈ b.sites, slice tree.source site.span = b.name ∧
      ∀ i : Nat, s.bindingAt? site.span = some i ↔ ∃ c : Binding, s.bindings[i]? = some c ∧ site ∈ c.sites) ∧
    (∀ r ∈ s.references, slice tree.source r.site.span = r.name ∧
      (∀ id : Nat, r.binding = some id → ∃ b : Binding, s.bindings[id]? = some b ∧ b.name = r.name) ∧
      s.bindingAt? r.site.span = none) ∧
    ∃ set, EditSet.merge (propose (.ofTree tree settings)).edits = .ok set ∧ set.superseded = 0 ∧
      set.edits.Perm ((renames (.ofTree tree settings)).flatMap fun r =>
        (r.binding.sites ++ (s.references.toList.filter (·.binding = some r.binding.id)).map (·.site)).map
          (renameEdit r.binding.name r.new)) := by
  intro s
  refine ⟨ScopeTree.scattered_places h, fun id b hb site hsite => ?_, fun r hr => ?_, ?_⟩
  · exact ⟨ScopeTree.slice_of_site hb hsite, ScopeTree.bindingAt?_eq_iff h hb hsite⟩
  · exact ⟨ScopeTree.slice_of_reference hr, fun id hid => ScopeTree.exists_binding_of_reference hr hid,
      ScopeTree.bindingAt?_reference h hr⟩
  · have hstays : ∀ e ∈ (propose (.ofTree tree settings)).edits, e.isDelete = false := by
      intro e he
      obtain ⟨r, -, site, -, rfl⟩ := mem_edits_propose.1 he
      rfl
    obtain ⟨set, hset, hsuperseded, hperm⟩ :=
      EditSet.merge_perm_of_apart (fun e he => byte_of_mem_edits h he) hstays (pairwise_edits h settings)
    refine ⟨set, hset, hsuperseded, hperm.trans (.of_eq ?_)⟩
    rw [(propose_eq _).1]
    exact List.flatMap_congr fun r hr => congrArg (List.map _) (renameSites_eq hr)

/-- Both places of a renamed name are replaced, and nothing else. -/
theorem identifiers_are_recorded_once_colliding :
    colliding.root.IsNested ∧ ∃ set, EditSet.merge (propose (.ofTree colliding .standard)).edits = .ok set ∧
      set.superseded = 0 ∧ set.edits.Perm [.replace ⟨4, 8⟩ "myA", .replace ⟨25, 29⟩ "myA as my_a"] := by
  have h : colliding.root.IsNested := by decide +kernel
  obtain ⟨-, -, -, set, hset, hsuperseded, hperm⟩ := identifiers_are_recorded_once colliding .standard h
  exact ⟨h, set, hset, hsuperseded, hperm.trans (.of_eq (by decide +kernel))⟩

end Casing

end ScriptTidy
