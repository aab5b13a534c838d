import ScriptTidy.Proofs.Names.Surroundings

/-!
# Outlines with fewer parts

`Outline.Thins` says that an outline is another one without some of its parts. If no place is mentioned twice, the parts
that are left out mention only places that the thinner outline does not mention (`Thins.unmentioned`). So its regions
have the entries that are left (`Thins.exists_table`), and a reference that is left means the places that are left of
those that it meant, if any are (`Thins.meaning`).

For the scope trees of two files this says that a binding of the thinner file is a binding of the other one with fewer
sites (`Tree.Thins.exists_binding`), and that a reference which is left means what is left of its binding
(`Tree.Thins.exists_reference`).
-/

namespace ScriptTidy

namespace Outline

open entries tables meanings

/-- The first outlines are the second ones without some parts for which `lost` holds. -/
inductive Thins (lost : Outline → Prop) : List Outline → List Outline → Prop
  | nil : Thins lost [] []
  | declare {os' os : List Outline} (kind : BindingKind) (name : String) (site : Site) :
    Thins lost os' os → Thins lost (.declare kind name site :: os') (.declare kind name site :: os)
  | refer {os' os : List Outline} (name : String) (site : Site) :
    Thins lost os' os → Thins lost (.refer name site :: os') (.refer name site :: os)
  | scope {ps' ps os' os : List Outline} (kind : ScopeKind) (span : Span) :
    Thins lost ps' ps → Thins lost os' os → Thins lost (.scope kind span ps' :: os') (.scope kind span ps :: os)
  | exported {ps' ps os' os : List Outline} :
    Thins lost ps' ps → Thins lost os' os → Thins lost (.exported ps' :: os') (.exported ps :: os)
  | drop {o : Outline} {os' os : List Outline} : lost o → Thins lost os' os → Thins lost os' (o :: os)

/-- What an outline declares for the regions around it, it declares in ways and at places with `R`. -/
def DeclaresOnly (R : BindingKind → Span → Prop) (o : Outline) : Prop :=
  ∀ e ∈ o.entries (fun _ => true) true, R e.kind e.site.span

private theorem entries_mono : ∀ (o : Outline) {accepts : BindingKind → Bool} {direct : Bool} {e : TableEntry}
    (accepts' : BindingKind → Bool) (direct' : Bool),
    (∀ how, accepts how = true → accepts' how = true) → e ∈ o.entries accepts direct →
      ∃ e' ∈ o.entries accepts' direct', e'.kind = e.kind ∧ e'.site = e.site
  | declare kind name site, accepts, direct, e, accepts', direct', h, he => by
    unfold entries at he ⊢
    split at he
    · rename_i hkind
      rw [if_pos (h kind hkind)]
      exact ⟨e, he, rfl, rfl⟩
    · cases he
  | refer name site, accepts, direct, e, accepts', direct', h, he => by cases he
  | scope kind span parts, accepts, direct, e, accepts', direct', h, he => by
    refine entries_monoAll parts _ _ (fun how hhow => ?_) he
    rw [Bool.and_eq_true] at hhow ⊢
    exact ⟨hhow.1, h how hhow.2⟩
  | exported parts, accepts, direct, e, accepts', direct', h, he => by
    obtain ⟨inner, hinner, rfl⟩ := List.mem_map.1 he
    obtain ⟨e', he', hkind, hsite⟩ := entries_monoAll parts accepts' direct' h hinner
    exact ⟨_, List.mem_map_of_mem he', hkind, hsite⟩
where
  entries_monoAll : ∀ (os : List Outline) {accepts : BindingKind → Bool} {direct : Bool} {e : TableEntry}
      (accepts' : BindingKind → Bool) (direct' : Bool),
      (∀ how, accepts how = true → accepts' how = true) → e ∈ entriesAll accepts direct os →
        ∃ e' ∈ entriesAll accepts' direct' os, e'.kind = e.kind ∧ e'.site = e.site
    | [], _, _, _, _, _, _, he => by cases he
    | o :: os, accepts, direct, e, accepts', direct', h, he => by
      rcases List.mem_append.1 he with he | he
      · obtain ⟨e', he', hboth⟩ := entries_mono o accepts' direct' h he
        exact ⟨e', List.mem_append_left _ he', hboth⟩
      · obtain ⟨e', he', hboth⟩ := entries_monoAll os accepts' direct' h he
        exact ⟨e', List.mem_append_right _ he', hboth⟩

/-- What a region takes is mentioned. -/
private theorem place_of_entry {accepts : BindingKind → Bool} {direct : Bool} {os : List Outline} {e : TableEntry}
    (he : e ∈ entriesAll accepts direct os) : e.site.span ∈ places os := by
  have hdeclared : (e.name, e.site) ∈ declared.declaredAll accepts os := by
    rw [declared_eq.declaredAll_eq accepts direct]
    exact List.mem_map.2 ⟨e, he, rfl⟩
  exact place_of_declared.place_of_declaredAll os hdeclared

private theorem places_cons (o : Outline) (os : List Outline) : places (o :: os) = places [o] ++ places os := by
  rw [← places_append, List.singleton_append]

theorem mem_places {os : List Outline} {p : Span} : p ∈ places os ↔ ∃ o ∈ os, p ∈ places [o] := by
  induction os with
  | nil => simp
  | cons o os ih =>
    rw [places_cons, List.mem_append, ih]
    simp

private theorem places_scope (kind : ScopeKind) (span : Span) (parts os : List Outline) :
    places (.scope kind span parts :: os) = places parts ++ places os := by
  simp [places, mentions.mentionsAll, mentions]

private theorem places_exported (parts os : List Outline) :
    places (.exported parts :: os) = places parts ++ places os := by
  simp [places, mentions.mentionsAll, mentions]

theorem declaresOnly_stamp {R : BindingKind → Span → Prop} {os : List Outline} (h : ∀ o ∈ os, o.DeclaresOnly R)
    (r : Reading) : ∀ o ∈ r.stamp os, o.DeclaresOnly R := by
  unfold Reading.stamp
  split
  · intro o ho e he
    rw [List.mem_singleton.1 ho, entries] at he
    obtain ⟨inner, hinner, rfl⟩ := List.mem_map.1 he
    obtain ⟨o', ho', hinner'⟩ := mem_entriesAll.1 hinner
    exact h o' ho' inner hinner'
  · exact h

namespace Thins

variable {lost : Outline → Prop} {os' os ps' ps : List Outline} {kept : Span → Bool}

theorem append (h : Thins lost os' os) (hp : Thins lost ps' ps) : Thins lost (os' ++ ps') (os ++ ps) := by
  induction h with
  | nil => exact hp
  | declare kind name site _ ih => exact .declare kind name site ih
  | refer name site _ ih => exact .refer name site ih
  | scope kind span hparts _ _ ih => exact .scope kind span hparts ih
  | exported hparts _ _ ih => exact .exported hparts ih
  | drop hlost _ ih => exact .drop hlost ih

/-- A part may stay as it is. -/
theorem keep : ∀ (o : Outline) {os' os : List Outline}, Thins lost os' os → Thins lost (o :: os') (o :: os)
  | .declare kind name site, _, _, h => .declare kind name site h
  | .refer name site, _, _, h => .refer name site h
  | .scope kind span parts, _, _, h => .scope kind span (keepAll parts) h
  | .exported parts, _, _, h => .exported (keepAll parts) h
where
  keepAll : ∀ os : List Outline, Thins lost os os
    | [] => .nil
    | o :: os => keep o (keepAll os)

theorem refl (os : List Outline) : Thins lost os os := keep.keepAll os

theorem stamp (h : Thins lost os' os) (r : Reading) : Thins lost (r.stamp os') (r.stamp os) := by
  unfold Reading.stamp
  split
  · exact .exported h .nil
  · exact h

theorem drop_all (h : ∀ o ∈ os, lost o) : Thins lost [] os := by
  induction os with
  | nil => exact .nil
  | cons o os ih => exact .drop (h o List.mem_cons_self) (ih fun p hp => h p (List.mem_cons_of_mem o hp))

theorem mono {lost' : Outline → Prop} (h : Thins lost os' os) (himp : ∀ o, lost o → lost' o) : Thins lost' os' os := by
  induction h with
  | nil => exact .nil
  | declare kind name site _ ih => exact .declare kind name site ih
  | refer name site _ ih => exact .refer name site ih
  | scope kind span _ _ ihp ih => exact .scope kind span ihp ih
  | exported _ _ ihp ih => exact .exported ihp ih
  | drop hlost _ ih => exact .drop (himp _ hlost) ih

/-- A place that is mentioned is left, or a part that is left out mentions it. -/
theorem place_cases (h : Thins lost os' os) {p : Span} (hp : p ∈ places os) :
    p ∈ places os' ∨ ∃ o, lost o ∧ p ∈ places [o] := by
  induction h with
  | nil => exact .inl hp
  | declare kind name site _ ih =>
    rw [places_cons, List.mem_append] at hp ⊢
    rcases hp with hp | hp
    · exact .inl (.inl hp)
    · exact (ih hp).imp_left .inr
  | refer name site _ ih =>
    rw [places_cons, List.mem_append] at hp ⊢
    rcases hp with hp | hp
    · exact .inl (.inl hp)
    · exact (ih hp).imp_left .inr
  | scope kind span _ _ ihp ih =>
    rw [places_scope, List.mem_append] at hp ⊢
    rcases hp with hp | hp
    · exact (ihp hp).imp_left .inl
    · exact (ih hp).imp_left .inr
  | exported _ _ ihp ih =>
    rw [places_exported, List.mem_append] at hp ⊢
    rcases hp with hp | hp
    · exact (ihp hp).imp_left .inl
    · exact (ih hp).imp_left .inr
  | drop hlost _ ih =>
    rw [places_cons, List.mem_append] at hp
    rcases hp with hp | hp
    · exact .inr ⟨_, hlost, hp⟩
    · exact ih hp

private theorem places_sublist (h : Thins lost os' os) : (places os').Sublist (places os) := by
  induction h with
  | nil => exact List.Sublist.refl _
  | declare kind name site _ ih => exact ih.cons_cons _
  | refer name site _ ih => exact ih.cons_cons _
  | scope kind span _ _ ihp ih =>
    rw [places_scope, places_scope]
    exact ihp.append ih
  | exported _ _ ihp ih =>
    rw [places_exported, places_exported]
    exact ihp.append ih
  | drop _ _ ih =>
    rw [places_cons]
    exact ih.trans (List.sublist_append_right _ _)

/-- Where no place is mentioned twice, the places kept from the front stand in the front, and those from the back in
the back. -/
private theorem split_kept {front front' back back' : List Span} (hnodup : (front ++ back).Nodup)
    (hfront : front'.Sublist front) (hback : back'.Sublist back)
    (hkept : ∀ p ∈ front ++ back, kept p = true → p ∈ front' ++ back') :
    (front.Nodup ∧ ∀ p ∈ front, kept p = true → p ∈ front') ∧ back.Nodup ∧ ∀ p ∈ back, kept p = true → p ∈ back' := by
  obtain ⟨hfirst, hsecond, hne⟩ := List.nodup_append.1 hnodup
  refine ⟨⟨hfirst, fun p hp hk => ?_⟩, hsecond, fun p hp hk => ?_⟩
  · rcases List.mem_append.1 (hkept p (List.mem_append_left _ hp) hk) with h | h
    · exact h
    · exact absurd rfl (hne p hp p (hback.subset h))
  · rcases List.mem_append.1 (hkept p (List.mem_append_right _ hp) hk) with h | h
    · exact absurd rfl (hne p (hfront.subset h) p hp)
    · exact h

/-- If no place is mentioned twice, what is left out mentions no place that is kept. -/
theorem unmentioned (h : Thins lost os' os) (hnodup : (places os).Nodup)
    (hkept : ∀ p ∈ places os, kept p = true → p ∈ places os') :
    Thins (fun o => lost o ∧ ∀ p ∈ places [o], kept p = false) os' os := by
  induction h with
  | nil => exact .nil
  | declare kind name site h ih =>
    have hsplit : ([site.span] ++ places _).Nodup := hnodup
    obtain ⟨-, hback, hrest⟩ := split_kept hsplit (.refl _) h.places_sublist hkept
    exact .declare kind name site (ih hback hrest)
  | refer name site h ih =>
    have hsplit : ([site.span] ++ places _).Nodup := hnodup
    obtain ⟨-, hback, hrest⟩ := split_kept hsplit (.refl _) h.places_sublist hkept
    exact .refer name site (ih hback hrest)
  | scope kind span hp h ihp ih =>
    rw [places_scope] at hnodup hkept
    rw [places_scope] at hkept
    obtain ⟨⟨hfront, hparts⟩, hback, hrest⟩ := split_kept hnodup hp.places_sublist h.places_sublist hkept
    exact .scope kind span (ihp hfront hparts) (ih hback hrest)
  | exported hp h ihp ih =>
    rw [places_exported] at hnodup hkept
    rw [places_exported] at hkept
    obtain ⟨⟨hfront, hparts⟩, hback, hrest⟩ := split_kept hnodup hp.places_sublist h.places_sublist hkept
    exact .exported (ihp hfront hparts) (ih hback hrest)
  | drop hlost h ih =>
    rw [places_cons] at hnodup hkept
    obtain ⟨⟨-, hdropped⟩, hback, hrest⟩ := split_kept hnodup (List.nil_sublist _) h.places_sublist hkept
    refine .drop ⟨hlost, fun p hp => Bool.eq_false_iff.2 fun hk => ?_⟩ (ih hback hrest)
    exact absurd (hdropped p hp hk) List.not_mem_nil

/-! ### What is left -/

section Left

variable {R : BindingKind → Span → Prop}
  (h : Thins (fun o => DeclaresOnly R o ∧ ∀ p ∈ places [o], kept p = false) os' os)
  (hkept : ∀ p ∈ places os', kept p = true)
include h hkept

/-- A region takes those entries that are left. -/
private theorem entries_eq (accepts : BindingKind → Bool) (direct : Bool) :
    entriesAll accepts direct os' = (entriesAll accepts direct os).filter fun e => kept e.site.span := by
  induction h generalizing accepts direct with
  | nil => rfl
  | @declare os' os kind name site _ ih =>
    rw [places_cons, List.forall_mem_append] at hkept
    have hsite : kept site.span = true := hkept.1 _ (List.mem_singleton_self _)
    rw [entriesAll, entriesAll, List.filter_append, ih hkept.2, entries]
    split <;> simp [hsite]
  | refer name site _ ih =>
    rw [places_cons, List.forall_mem_append] at hkept
    exact ih hkept.2 accepts direct
  | scope kind span _ _ ihp ih =>
    rw [places_scope, List.forall_mem_append] at hkept
    rw [entriesAll, entriesAll, List.filter_append, ih hkept.2, entries, entries, ihp hkept.1]
  | exported _ _ ihp ih =>
    rw [places_exported, List.forall_mem_append] at hkept
    rw [entriesAll, entriesAll, List.filter_append, ih hkept.2, entries, entries, ihp hkept.1, List.filter_map]
    rfl
  | @drop o os' os hlost _ ih =>
    have hnone : (o.entries accepts direct).filter (fun e => kept e.site.span) = [] := by
      refine List.filter_eq_nil_iff.2 fun e he => ?_
      have hplace : e.site.span ∈ places [o] :=
        place_of_entry (mem_entriesAll.2 ⟨o, List.mem_singleton_self o, he⟩)
      simp [hlost.2 _ hplace]
    rw [entriesAll, List.filter_append, hnone, List.nil_append, ih hkept]

/-- What a region declares under a name is what is left of it. -/
private theorem sitesOf_eq (accepts : BindingKind → Bool) (name : String) :
    sitesOf name (declared.declaredAll accepts os') =
      (sitesOf name (declared.declaredAll accepts os)).filter fun s => kept s.span := by
  rw [declared_eq.declaredAll_eq accepts true, declared_eq.declaredAll_eq accepts true, h.entries_eq hkept]
  simp only [sitesOf, List.filter_map, List.map_map, List.filter_filter, Function.comp_def, Bool.and_comm]

/-- An entry that is not left was declared by a part that is left out. -/
private theorem of_lost_entry {accepts : BindingKind → Bool} {direct : Bool} {e : TableEntry}
    (he : e ∈ entriesAll accepts direct os) (hlost : kept e.site.span = false) : R e.kind e.site.span := by
  induction h generalizing accepts direct e with
  | nil => cases he
  | @declare os' os kind name site _ ih =>
    rw [places_cons, List.forall_mem_append] at hkept
    have hsite : kept site.span = true := hkept.1 _ (List.mem_singleton_self _)
    rcases List.mem_append.1 he with he | he
    · unfold entries at he
      split at he
      · rw [List.mem_singleton.1 he, hsite] at hlost
        cases hlost
      · cases he
    · exact ih hkept.2 he hlost
  | refer name site _ ih =>
    rw [places_cons, List.forall_mem_append] at hkept
    exact ih hkept.2 he hlost
  | scope kind span _ _ ihp ih =>
    rw [places_scope, List.forall_mem_append] at hkept
    rcases List.mem_append.1 he with he | he
    · exact ihp hkept.1 he hlost
    · exact ih hkept.2 he hlost
  | exported _ _ ihp ih =>
    rw [places_exported, List.forall_mem_append] at hkept
    rcases List.mem_append.1 he with he | he
    · obtain ⟨inner, hinner, rfl⟩ := List.mem_map.1 he
      exact ihp hkept.1 (e := inner) hinner hlost
    · exact ih hkept.2 he hlost
  | @drop o os' os hdropped _ ih =>
    rcases List.mem_append.1 he with he | he
    · obtain ⟨e', he', hkind, hsite⟩ := entries_mono o (fun _ => true) true (fun _ _ => rfl) he
      rw [← hkind, ← hsite]
      exact hdropped.1 e' he'
    · exact ih hkept he hlost

/-- Every region is another one with fewer entries. -/
theorem exists_table {table' : List TableEntry} (htable : table' ∈ tablesAll os') :
    ∃ table ∈ tablesAll os, table' = table.filter (fun e => kept e.site.span) ∧
      ∀ e ∈ table, kept e.site.span = false → R e.kind e.site.span := by
  induction h with
  | nil => cases htable
  | declare kind name site _ ih =>
    rw [places_cons, List.forall_mem_append] at hkept
    exact ih hkept.2 htable
  | refer name site _ ih =>
    rw [places_cons, List.forall_mem_append] at hkept
    exact ih hkept.2 htable
  | scope kind span hp _ ihp ih =>
    rw [places_scope, List.forall_mem_append] at hkept
    rw [tablesAll, tables, List.mem_append, List.mem_cons] at htable
    rcases htable with (rfl | htable) | htable
    · exact ⟨_, List.mem_append_left _ List.mem_cons_self, hp.entries_eq hkept.1 kind.accepts true,
        fun e he hlost => hp.of_lost_entry hkept.1 he hlost⟩
    · obtain ⟨table, hmem, hboth⟩ := ihp hkept.1 htable
      exact ⟨table, List.mem_append_left _ (List.mem_cons_of_mem _ hmem), hboth⟩
    · obtain ⟨table, hmem, hboth⟩ := ih hkept.2 htable
      exact ⟨table, List.mem_append_right _ hmem, hboth⟩
  | exported _ _ ihp ih =>
    rw [places_exported, List.forall_mem_append] at hkept
    rcases List.mem_append.1 htable with htable | htable
    · obtain ⟨table, hmem, hboth⟩ := ihp hkept.1 htable
      exact ⟨table, List.mem_append_left _ hmem, hboth⟩
    · obtain ⟨table, hmem, hboth⟩ := ih hkept.2 htable
      exact ⟨table, List.mem_append_right _ hmem, hboth⟩
  | drop _ _ ih =>
    obtain ⟨table, hmem, hboth⟩ := ih hkept htable
    exact ⟨table, List.mem_append_right _ hmem, hboth⟩

/-- A reference that is left means the places that are left of those that it meant, if any are. -/
theorem meaning {outer outer' : String → List Site}
    (houter : ∀ name, (outer name).filter (fun s => kept s.span) ≠ [] →
      outer' name = (outer name).filter fun s => kept s.span)
    {m : Meaning} (hm : m ∈ meaningsAll outer os) (hsite : kept m.site.span = true)
    (hne : m.sites.filter (fun s => kept s.span) ≠ []) :
    ⟨m.name, m.site, m.sites.filter fun s => kept s.span⟩ ∈ meaningsAll outer' os' := by
  induction h generalizing outer outer' with
  | nil => cases hm
  | declare kind name site _ ih =>
    rw [places_cons, List.forall_mem_append] at hkept
    exact ih hkept.2 houter hm
  | refer name site _ ih =>
    rw [places_cons, List.forall_mem_append] at hkept
    rcases List.mem_cons.1 hm with rfl | hm
    · rw [meaningsAll, meanings, houter name hne]
      exact List.mem_cons_self
    · exact List.mem_cons_of_mem _ (ih hkept.2 houter hm)
  | scope kind span hp _ ihp ih =>
    rw [places_scope, List.forall_mem_append] at hkept
    rcases List.mem_append.1 hm with hm | hm
    · refine List.mem_append_left _ (ihp hkept.1 (fun name hinside => ?_) hm)
      -- what the region declares goes before what the name means outside, in both outlines
      have hsites := hp.sitesOf_eq hkept.1 kind.accepts name
      unfold inside at hinside ⊢
      rw [hsites]
      split at hinside
      · rename_i hnone
        rw [if_pos (by rw [hnone]; rfl), if_pos hnone, houter name hinside]
      · rename_i hsome
        rw [if_neg hinside, if_neg hsome]
    · exact List.mem_append_right _ (ih hkept.2 houter hm)
  | exported _ _ ihp ih =>
    rw [places_exported, List.forall_mem_append] at hkept
    rcases List.mem_append.1 hm with hm | hm
    · exact List.mem_append_left _ (ihp hkept.1 houter hm)
    · exact List.mem_append_right _ (ih hkept.2 houter hm)
  | @drop o os' os hlost _ ih =>
    rcases List.mem_append.1 hm with hm | hm
    · have hplace : m.site.span ∈ places [o] := (meaning_cases.meaning_casesAll [o] (by simpa [meaningsAll] using hm)).1
      rw [hlost.2 _ hplace] at hsite
      cases hsite
    · exact ih hkept houter hm

end Left

end Thins

end Outline

/-! ### Scope trees -/

/-- A name stands there that the outline mentions. -/
def Tree.mentionsAt (t : Tree) (p : Span) : Bool := p ∈ t.outline.mentions.map Mention.span

/-- What is left of a name in a table comes from the same name in the whole table. The first entry of the name tells
its kind and its mark, as long as that entry is left. -/
private theorem exists_profile {kept : Span → Bool} {table : List TableEntry} {name : String} {p' : Profile}
    (hp' : Profile.ofTable? name (table.filter fun e => kept e.site.span) = some p') :
    ∃ p, Profile.ofTable? name table = some p ∧ p'.sites = p.sites.filter (fun s => kept s.span) ∧
      ∃ e ∈ table, p.kind = e.kind ∧ p.sites.head? = some e.site ∧
        (kept e.site.span = true → p'.kind = p.kind ∧ p'.exported = p.exported) := by
  have hsites' := Profile.sites_ofTable? hp'
  unfold Profile.ofTable? at hp' ⊢
  rw [List.filter_comm] at hp' hsites'
  cases hnamed : table.filter (·.name = name) with
  | nil => simp [hnamed, Profile.extend] at hp'
  | cons e rest =>
    have he : e ∈ table := List.mem_of_mem_filter (hnamed ▸ List.mem_cons_self)
    refine ⟨⟨e.kind, (e :: rest).map (·.site), e.marked⟩, rfl, ?_, e, he, rfl, rfl, fun hk => ?_⟩
    · rw [hsites', hnamed, List.filter_map]
      rfl
    · rw [hnamed, List.filter_cons_of_pos (by exact hk)] at hp'
      rw [← Option.some.inj hp']
      exact ⟨rfl, rfl⟩

/-- The first file has the outline of the second without some parts, which declare for the regions around them only in
ways and at places with `R`. -/
structure Tree.Thins (R : BindingKind → Span → Prop) (t' t : Tree) : Prop where
  nested : t.root.IsNested
  outline : Outline.Thins (Outline.DeclaresOnly R) [t'.outline] [t.outline]

namespace Tree.Thins

variable {R : BindingKind → Span → Prop} {t t' : Tree}

/-- What is left out mentions no place that the thinner file mentions. -/
private theorem unmentioned (h : t'.Thins R t) :
    Outline.Thins (fun o => Outline.DeclaresOnly R o ∧ ∀ p ∈ Outline.places [o], t'.mentionsAt p = false)
      [t'.outline] [t.outline] := by
  have hplaces : ∀ t : Tree, Outline.places [t.outline] = t.outline.mentions.map Mention.span := fun t => by
    simp [Outline.places, Outline.mentions.mentionsAll]
  have hscattered := Tree.scattered_places h.nested
  refine h.outline.unmentioned ?_ fun p _ hp => ?_
  · rw [hplaces, List.nodup_iff_pairwise_ne]
    refine hscattered.apart.imp_of_mem fun {a b} ha hb hapart heq => ?_
    subst heq
    exact Span.not_apart_self (hscattered.byte a ha) hapart
  · rw [hplaces]
    simpa [mentionsAt] using hp

private theorem mentioned (t : Tree) : ∀ p ∈ Outline.places [t.outline], t.mentionsAt p = true := by
  intro p hp
  simpa [mentionsAt, Outline.places, Outline.mentions.mentionsAll] using hp

/-- A binding of the thinner file is a binding of the other one with fewer sites. It has the kind and the mark of that
one if the first site is left. -/
theorem exists_binding (h : t'.Thins R t) {id' : Nat} {b' : Binding}
    (hb' : (ScopeTree.ofTree t').bindings[id']? = some b') :
    ∃ (id : Nat) (b : Binding), (ScopeTree.ofTree t).bindings[id]? = some b ∧
      b'.sites = b.sites.filter (fun s => t'.mentionsAt s.span) ∧ ∃ s, b.sites.head? = some s ∧
        (t'.mentionsAt s.span = true → b'.kind = b.kind ∧ b'.exported = b.exported) ∧
        (t'.mentionsAt s.span = false → R b.kind s.span) := by
  obtain ⟨table', htable', hp'⟩ := ScopeTree.exists_table hb'
  obtain ⟨table, htable, rfl, hlost⟩ := h.unmentioned.exists_table (mentioned t')
    (by simpa [Outline.tables.tablesAll] using htable')
  obtain ⟨p, hp, hsites, e, he, hkind, hhead, hsame⟩ := exists_profile hp'
  obtain ⟨id, b, hb, -, rfl⟩ :=
    ScopeTree.exists_binding (by simpa [Outline.tables.tablesAll] using htable) hp
  refine ⟨id, b, hb, hsites, e.site, hhead, hsame, fun hgone => ?_⟩
  rw [show b.kind = e.kind from hkind]
  exact hlost e he hgone

/-- A reference that is left, to a binding of which a site is left, means what is left of the binding. -/
theorem exists_reference (h : t'.Thins R t) {r : Reference} (hr : r ∈ (ScopeTree.ofTree t).references)
    (hsite : t'.mentionsAt r.site.span = true) {id : Nat} {b : Binding} (hid : r.binding = some id)
    (hb : (ScopeTree.ofTree t).bindings[id]? = some b) (hne : ∃ s ∈ b.sites, t'.mentionsAt s.span = true) :
    ∃ r' ∈ (ScopeTree.ofTree t').references, ∃ (id' : Nat) (b' : Binding), r'.binding = some id' ∧
      (ScopeTree.ofTree t').bindings[id']? = some b' ∧ b'.sites = b.sites.filter fun s => t'.mentionsAt s.span := by
  have hmeaning : (ScopeTree.ofTree t).meaning r = ⟨r.name, r.site, b.sites⟩ := by
    simp [ScopeTree.meaning, hid, hb]
  have hmem : (⟨r.name, r.site, b.sites⟩ : Meaning) ∈ Outline.meanings.meaningsAll (fun _ => []) [t.outline] := by
    rw [← hmeaning, Outline.meanings.meaningsAll, Outline.meaningsAll_nil, List.append_nil,
      ← ScopeTree.meanings_ofTree]
    exact List.mem_map_of_mem (Array.mem_toList_iff.2 hr)
  have hleft : b.sites.filter (fun s => t'.mentionsAt s.span) ≠ [] := by
    obtain ⟨s, hs, hk⟩ := hne
    exact List.ne_nil_of_mem (List.mem_filter.2 ⟨hs, hk⟩)
  have hnone : ∀ name : String, ([] : List Site).filter (fun s => t'.mentionsAt s.span) ≠ [] →
      (fun _ : String => ([] : List Site)) name = ([] : List Site).filter fun s => t'.mentionsAt s.span :=
    fun _ h => absurd rfl h
  have hmem' := h.unmentioned.meaning (mentioned t') hnone hmem hsite hleft
  rw [Outline.meanings.meaningsAll, Outline.meaningsAll_nil, List.append_nil, ← ScopeTree.meanings_ofTree] at hmem'
  obtain ⟨r', hr', heq⟩ := List.mem_map.1 hmem'
  have hsites := congrArg Meaning.sites heq
  refine ⟨r', Array.mem_toList_iff.1 hr', ?_⟩
  cases hbinding : r'.binding.bind ((ScopeTree.ofTree t').bindings[·]?) with
  | none =>
    simp only [ScopeTree.meaning, hbinding] at hsites
    exact absurd hsites.symm hleft
  | some b' =>
    obtain ⟨id', hid', hb'⟩ := Option.bind_eq_some_iff.1 hbinding
    refine ⟨id', b', hid', hb', ?_⟩
    simp only [ScopeTree.meaning, hbinding] at hsites
    exact hsites

end Tree.Thins

end ScriptTidy
