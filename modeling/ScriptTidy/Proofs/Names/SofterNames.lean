import ScriptTidy.Proofs.Names.Softening
import ScriptTidy.Proofs.Names.Surroundings

/-!
# What names mean after softer declarations

A declaration by `var` in a block that becomes softer leaves the function around it, and then references may mean
something else. This module says what stays, wherever declarations become softer. The regions stay (`regionsAll_eq`). A
region keeps the entries whose declarations stay as they are (`entry_cases`). A reference that means a single place,
where the declaration is still one by `var`, means that place again (`Softens.meaning`): a softer declaration of the
same name between the two would have been a second place of the name in the function.

For the scope trees of two files this says that a binding without softer declarations has all its sites again
(`Tree.Softens.exists_binding`), and that such a reference means a binding with that place
(`Tree.Softens.exists_reference`).
-/

namespace ScriptTidy

namespace Outline

open declared entries meanings mentions tables

/-- What a region takes is declared. -/
private theorem mention_of_entry : ∀ (o : Outline) {accepts : BindingKind → Bool} {direct : Bool} {e : TableEntry},
    e ∈ o.entries accepts direct → .declares e.kind e.name e.site ∈ o.mentions
  | declare how name site, accepts, direct, e, he => by
    unfold entries at he
    split at he
    · rw [List.mem_singleton.1 he]
      exact List.mem_singleton_self _
    · cases he
  | refer name site, accepts, direct, e, he => by cases he
  | scope kind span parts, accepts, direct, e, he => mention_of_entryAll parts he
  | exported parts, accepts, direct, e, he => by
    obtain ⟨inner, hinner, rfl⟩ := List.mem_map.1 he
    exact mention_of_entryAll parts (e := inner) hinner
where
  mention_of_entryAll : ∀ (os : List Outline) {accepts : BindingKind → Bool} {direct : Bool} {e : TableEntry},
      e ∈ entriesAll accepts direct os → .declares e.kind e.name e.site ∈ mentionsAll os
    | [], _, _, _, he => by cases he
    | o :: os, _, _, _, he => by
      rcases List.mem_append.1 he with he | he
      · exact List.mem_append_left _ (mention_of_entry o he)
      · exact List.mem_append_right _ (mention_of_entryAll os he)

private theorem mention_of_table :
    ∀ (o : Outline) {table : List TableEntry} {e : TableEntry}, table ∈ o.tables → e ∈ table →
    .declares e.kind e.name e.site ∈ o.mentions
  | declare how name site, table, e, htable, _ => by cases htable
  | refer name site, table, e, htable, _ => by cases htable
  | scope kind span parts, table, e, htable, he => by
    rcases List.mem_cons.1 htable with rfl | htable
    · exact mention_of_entry.mention_of_entryAll parts he
    · exact mention_of_tableAll parts htable he
  | exported parts, table, e, htable, he => mention_of_tableAll parts htable he
where
  mention_of_tableAll : ∀ (os : List Outline) {table : List TableEntry} {e : TableEntry}, table ∈ tablesAll os →
      e ∈ table → .declares e.kind e.name e.site ∈ mentionsAll os
    | [], _, _, htable, _ => by cases htable
    | o :: os, _, _, htable, he => by
      rcases List.mem_append.1 htable with htable | htable
      · exact List.mem_append_left _ (mention_of_table o htable he)
      · exact List.mem_append_right _ (mention_of_tableAll os htable he)

/-- What is declared for a region comes from an entry. -/
private theorem mem_declaredAll {accepts : BindingKind → Bool} {os : List Outline} {name : String} {site : Site} :
    (name, site) ∈ declaredAll accepts os ↔ ∃ e ∈ entriesAll accepts true os, e.name = name ∧ e.site = site := by
  simp [declared_eq.declaredAll_eq accepts true]

namespace Softens

variable {free : ScopeKind → Bool} {soft : Span → Prop} {kind : ScopeKind} {os os' : List Outline}

theorem regionsAll_eq (h : Softens free soft kind os os') : regions.regionsAll os' = regions.regionsAll os := by
  induction h with
  | nil => rfl
  | declare how name site _ ih => exact ih
  | soften name site _ _ _ ih => exact ih
  | refer name site _ ih => exact ih
  | scope inner span _ _ ihparts ih =>
    rw [regions.regionsAll, regions, ihparts, ih]
    rfl
  | exported _ _ ihparts ih =>
    rw [regions.regionsAll, regions, ihparts, ih]
    rfl

/-- A name that is declared is still declared in its place. -/
private theorem declares_again (h : Softens free soft kind os os') {how : BindingKind} {name : String} {site : Site}
    (hm : .declares how name site ∈ mentionsAll os) : ∃ how', .declares how' name site ∈ mentionsAll os' := by
  induction h with
  | nil => cases hm
  | declare how name site _ ih =>
    rcases List.mem_cons.1 hm with heq | hm
    · cases heq
      exact ⟨how, List.mem_cons_self⟩
    · exact (ih hm).imp fun _ => List.mem_cons_of_mem _
  | soften name site _ _ _ ih =>
    rcases List.mem_cons.1 hm with heq | hm
    · cases heq
      exact ⟨.letName, List.mem_cons_self⟩
    · exact (ih hm).imp fun _ => List.mem_cons_of_mem _
  | refer name site _ ih =>
    rcases List.mem_cons.1 hm with heq | hm
    · cases heq
    · exact (ih hm).imp fun _ => List.mem_cons_of_mem _
  | scope inner span _ _ ihparts ih =>
    rcases List.mem_append.1 hm with hm | hm
    · exact (ihparts hm).imp fun _ => List.mem_append_left _
    · exact (ih hm).imp fun _ => List.mem_append_right _
  | exported _ _ ihparts ih =>
    rcases List.mem_append.1 hm with hm | hm
    · exact (ihparts hm).imp fun _ => List.mem_append_left _
    · exact (ih hm).imp fun _ => List.mem_append_right _

/-- An entry stays, or its declaration has become one by `let`. -/
theorem entry_cases (h : Softens free soft kind os os') {accepts : BindingKind → Bool} {direct : Bool} {e : TableEntry}
    (he : e ∈ entriesAll accepts direct os) : e ∈ entriesAll accepts direct os' ∨
      soft e.site.span ∧ .declares .letName e.name e.site ∈ mentionsAll os' := by
  induction h generalizing accepts direct e with
  | nil => cases he
  | declare how name site _ ih =>
    rcases List.mem_append.1 he with he | he
    · exact .inl (List.mem_append_left _ he)
    · exact (ih he).imp (List.mem_append_right _) (And.imp_right (List.mem_append_right _))
  | soften name site _ hsoft _ ih =>
    rcases List.mem_append.1 he with he | he
    · unfold entries at he
      split at he
      · rw [List.mem_singleton.1 he]
        exact .inr ⟨hsoft, List.mem_cons_self⟩
      · cases he
    · exact (ih he).imp (List.mem_append_right _) (And.imp_right (List.mem_append_right _))
  | refer name site _ ih => exact (ih he).imp_right (And.imp_right (List.mem_append_right _))
  | scope inner span _ _ ihparts ih =>
    rcases List.mem_append.1 he with he | he
    · exact (ihparts he).imp (List.mem_append_left _) (And.imp_right (List.mem_append_left _))
    · exact (ih he).imp (List.mem_append_right _) (And.imp_right (List.mem_append_right _))
  | exported _ _ ihparts ih =>
    rcases List.mem_append.1 he with he | he
    · obtain ⟨inner, hinner, rfl⟩ := List.mem_map.1 he
      exact (ihparts hinner).imp (fun hinner => List.mem_append_left _ (List.mem_map_of_mem hinner))
        (And.imp_right (List.mem_append_left _))
    · exact (ih he).imp (List.mem_append_right _) (And.imp_right (List.mem_append_right _))

/-- What is declared for a region was declared for it before, or by `var` for the function around. -/
private theorem declared_cases (h : Softens free soft kind os os') {accepts : BindingKind → Bool} {name : String}
    {site : Site} (hd : (name, site) ∈ declaredAll accepts os') :
    (name, site) ∈ declaredAll accepts os ∨ accepts .letName = true ∧
      (name, site) ∈ declaredAll (fun how => how = .varName) os ∧ .declares .letName name site ∈ mentionsAll os' := by
  induction h generalizing accepts with
  | nil => cases hd
  | declare how name site _ ih =>
    rcases List.mem_append.1 hd with hd | hd
    · exact .inl (List.mem_append_left _ hd)
    · exact (ih hd).imp (List.mem_append_right _)
        (And.imp_right (And.imp (List.mem_append_right _) (List.mem_append_right _)))
  | soften name site _ _ _ ih =>
    rcases List.mem_append.1 hd with hd | hd
    · unfold declared at hd
      split at hd
      · obtain ⟨rfl, rfl⟩ := Prod.mk.inj (List.mem_singleton.1 hd)
        exact .inr ⟨‹_›, List.mem_cons_self, List.mem_cons_self⟩
      · cases hd
    · exact (ih hd).imp (List.mem_append_right _)
        (And.imp_right (And.imp (List.mem_append_right _) (List.mem_append_right _)))
  | refer name site _ ih => exact (ih hd).imp_right (And.imp_right (And.imp_right (List.mem_append_right _)))
  | scope inner span _ _ ihparts ih =>
    rcases List.mem_append.1 hd with hd | hd
    · -- a region takes nothing by `let` from the regions inside
      rcases ihparts hd with hd | ⟨haccepts, -⟩
      · exact .inl (List.mem_append_left _ hd)
      · simp at haccepts
    · exact (ih hd).imp (List.mem_append_right _)
        (And.imp_right (And.imp (List.mem_append_right _) (List.mem_append_right _)))
  | exported _ _ ihparts ih =>
    rcases List.mem_append.1 hd with hd | hd
    · exact (ihparts hd).imp (List.mem_append_left _)
        (And.imp_right (And.imp (List.mem_append_left _) (List.mem_append_left _)))
    · exact (ih hd).imp (List.mem_append_right _)
        (And.imp_right (And.imp (List.mem_append_right _) (List.mem_append_right _)))

/-- Each region has one to follow it, with the entries that are left. -/
theorem exists_table (h : Softens free soft kind os os') {table : List TableEntry} (htable : table ∈ tablesAll os) :
    ∃ table' ∈ tablesAll os', ∀ e ∈ table, e ∈ table' ∨ soft e.site.span := by
  induction h with
  | nil => cases htable
  | declare how name site _ ih => exact ih htable
  | soften name site _ _ _ ih => exact ih htable
  | refer name site _ ih => exact ih htable
  | scope inner span hparts _ ihparts ih =>
    rw [tablesAll, tables, List.mem_append, List.mem_cons] at htable
    rcases htable with (rfl | htable) | htable
    · exact ⟨_, List.mem_append_left _ List.mem_cons_self, fun e he => (hparts.entry_cases he).imp_right And.left⟩
    · obtain ⟨table', hmem, hleft⟩ := ihparts htable
      exact ⟨table', List.mem_append_left _ (List.mem_cons_of_mem _ hmem), hleft⟩
    · obtain ⟨table', hmem, hleft⟩ := ih htable
      exact ⟨table', List.mem_append_right _ hmem, hleft⟩
  | exported _ _ ihparts ih =>
    rcases List.mem_append.1 htable with htable | htable
    · obtain ⟨table', hmem, hleft⟩ := ihparts htable
      exact ⟨table', List.mem_append_left _ hmem, hleft⟩
    · obtain ⟨table', hmem, hleft⟩ := ih htable
      exact ⟨table', List.mem_append_right _ hmem, hleft⟩

end Softens

/-! ### Meanings -/

/-- Around some outlines a name has the meanings `outer` at first and `outer'` afterwards. If it means a single place at
first, and a hard one, it still means that place, and the outlines declare it by `var` for the function around at no
other place. -/
structure Keeps (hard : Site → Prop) (outer outer' : String → List Site) (os : List Outline) : Prop where
  mem : ∀ {name : String} {s : Site}, hard s → outer name = [s] → s ∈ outer' name
  only : ∀ {name : String} {s s' : Site}, hard s → outer name = [s] →
    (name, s') ∈ declaredAll (fun how => how = .varName) os → s' = s

namespace Keeps

variable {hard : Site → Prop} {outer outer' : String → List Site} {o : Outline} {os parts : List Outline}

/-- Outside of all regions no name means anything. -/
theorem nothing (hard : Site → Prop) (os : List Outline) : Keeps hard (fun _ => []) (fun _ => []) os :=
  ⟨nofun, nofun⟩

theorem tail (h : Keeps hard outer outer' (o :: os)) : Keeps hard outer outer' os :=
  ⟨h.mem, fun hs hone hd => h.only hs hone (List.mem_append_right _ hd)⟩

theorem exported (h : Keeps hard outer outer' (.exported parts :: os)) : Keeps hard outer outer' parts :=
  ⟨h.mem, fun hs hone hd => h.only hs hone (List.mem_append_left _ hd)⟩

/-- A region that is no function passes on what is declared by `var` inside of it. -/
private theorem only_of_parts {kind : ScopeKind} {span : Span}
    (h : Keeps hard outer outer' (.scope kind span parts :: os)) (hkind : ¬ kind.isFunctionLike = true) {name : String}
    {s s' : Site} (hs : hard s) (hone : outer name = [s])
    (hd : (name, s') ∈ declaredAll (fun how => how = .varName) parts) : s' = s := by
  refine h.only hs hone (List.mem_append_left _ ?_)
  rw [declared]
  refine declared_mono.declaredAll_mono parts (fun how hhow => ?_) hd
  simp_all

/-- Inside of a region names keep their meanings, if hard places are declared by `var` alone. -/
theorem inside {free : ScopeKind → Bool} {soft : Span → Prop} {kind : ScopeKind} {span : Span}
    {parts' : List Outline} (h : Keeps hard outer outer' (.scope kind span parts :: os))
    (hparts : Softens free soft kind parts parts')
    (hhard : ∀ {how : BindingKind} {name : String} {site : Site}, .declares how name site ∈ mentionsAll parts' →
      hard site → how = .varName) :
    Keeps hard (Outline.inside kind parts outer) (Outline.inside kind parts' outer') parts := by
  -- what the region declares at a hard place, it still declares there by `var`
  have hstays : ∀ {name : String} {s : Site}, hard s → (name, s) ∈ declaredAll kind.accepts parts →
      (name, s) ∈ declaredAll kind.accepts parts' ∧ kind.isFunctionLike = true := by
    intro name s hs hd
    obtain ⟨e, he, rfl, rfl⟩ := mem_declaredAll.1 hd
    rcases hparts.entry_cases he with he' | ⟨-, hlet⟩
    · have hvar := hhard (mention_of_entry.mention_of_entryAll parts' he') hs
      have haccepts := accepts_of_entries.accepts_of_entriesAll parts he
      refine ⟨mem_declaredAll.2 ⟨e, he', rfl, rfl⟩, ?_⟩
      simpa [ScopeKind.accepts, hvar] using haccepts
    · cases hhard hlet hs
  -- what is declared by `var` inside of a function is declared for it
  have hfunction : ∀ {name : String} {s : Site}, kind.isFunctionLike = true →
      (name, s) ∈ declaredAll (fun how => how = .varName) parts → (name, s) ∈ declaredAll kind.accepts parts := by
    intro name s hkind hd
    exact declared_mono.declaredAll_mono parts (fun how _ => by simp [ScopeKind.accepts, hkind]) hd
  refine ⟨fun {name s} hs hone => ?_, fun {name s s'} hs hone hd => ?_⟩
  · unfold Outline.inside at hone ⊢
    split at hone
    · rename_i hnone
      -- nothing new is declared under the name, as the function would have had a second place of it
      have hnone' : sitesOf name (declaredAll kind.accepts parts') = [] := by
        refine List.eq_nil_iff_forall_not_mem.2 fun s' hs' => ?_
        rcases hparts.declared_cases (mem_sitesOf.1 hs') with hd | ⟨-, hd, hlet⟩
        · exact List.not_mem_nil (hnone ▸ mem_sitesOf.2 hd)
        · by_cases hkind : kind.isFunctionLike = true
          · exact List.not_mem_nil (hnone ▸ mem_sitesOf.2 (hfunction hkind hd))
          · rw [h.only_of_parts hkind hs hone hd] at hlet
            cases hhard hlet hs
      rw [if_pos hnone']
      exact h.mem hs hone
    · have hmem : s ∈ sitesOf name (declaredAll kind.accepts parts') :=
        mem_sitesOf.2 (hstays hs (mem_sitesOf.1 (by rw [hone]; exact List.mem_singleton_self s))).1
      rw [if_neg (List.ne_nil_of_mem hmem)]
      exact hmem
  · by_cases hkind : kind.isFunctionLike = true
    · have hmem := mem_sitesOf.2 (hfunction hkind hd)
      rw [Outline.inside, if_neg (List.ne_nil_of_mem hmem)] at hone
      rw [hone] at hmem
      exact List.mem_singleton.1 hmem
    · unfold Outline.inside at hone
      split at hone
      · exact h.only_of_parts hkind hs hone hd
      · exact absurd (hstays hs (mem_sitesOf.1 (by rw [hone]; exact List.mem_singleton_self s))).2 hkind

end Keeps

/-- A reference that means a single place, and a hard one, still means that place. -/
theorem Softens.meaning {free : ScopeKind → Bool} {soft : Span → Prop} {kind : ScopeKind} {os os' : List Outline}
    (h : Softens free soft kind os os') {hard : Site → Prop}
    (hhard : ∀ {how : BindingKind} {name : String} {site : Site}, .declares how name site ∈ mentionsAll os' →
      hard site → how = .varName)
    {outer outer' : String → List Site} (hkeeps : Keeps hard outer outer' os) {m : Meaning}
    (hm : m ∈ meaningsAll outer os) :
    ∃ m' ∈ meaningsAll outer' os', m'.site = m.site ∧ ∀ s, hard s → m.sites = [s] → s ∈ m'.sites := by
  induction h generalizing outer outer' with
  | nil => cases hm
  | declare how name site _ ih => exact ih (fun hd => hhard (List.mem_append_right _ hd)) hkeeps.tail hm
  | soften name site _ _ _ ih => exact ih (fun hd => hhard (List.mem_append_right _ hd)) hkeeps.tail hm
  | refer name site _ ih =>
    rcases List.mem_append.1 hm with hm | hm
    · rw [List.mem_singleton.1 hm]
      exact ⟨⟨name, site, outer' name⟩, List.mem_append_left _ (List.mem_singleton_self _), rfl, fun s => hkeeps.mem⟩
    · obtain ⟨m', hm', hboth⟩ := ih (fun hd => hhard (List.mem_append_right _ hd)) hkeeps.tail hm
      exact ⟨m', List.mem_append_right _ hm', hboth⟩
  | scope inner span hparts _ ihparts ih =>
    rcases List.mem_append.1 hm with hm | hm
    · have hinner := hkeeps.inside hparts fun hd => hhard (List.mem_append_left _ hd)
      obtain ⟨m', hm', hboth⟩ := ihparts (fun hd => hhard (List.mem_append_left _ hd)) hinner hm
      exact ⟨m', List.mem_append_left _ hm', hboth⟩
    · obtain ⟨m', hm', hboth⟩ := ih (fun hd => hhard (List.mem_append_right _ hd)) hkeeps.tail hm
      exact ⟨m', List.mem_append_right _ hm', hboth⟩
  | exported _ _ ihparts ih =>
    rcases List.mem_append.1 hm with hm | hm
    · obtain ⟨m', hm', hboth⟩ := ihparts (fun hd => hhard (List.mem_append_left _ hd)) hkeeps.exported hm
      exact ⟨m', List.mem_append_left _ hm', hboth⟩
    · obtain ⟨m', hm', hboth⟩ := ih (fun hd => hhard (List.mem_append_right _ hd)) hkeeps.tail hm
      exact ⟨m', List.mem_append_right _ hm', hboth⟩

end Outline

/-! ### Scope trees -/

/-- A binding has the kind of the declaration at its first site. -/
theorem ScopeTree.mention_of_first {t : Tree} {id : Nat} {b : Binding} (hb : (ofTree t).bindings[id]? = some b) :
    ∃ s, b.sites.head? = some s ∧ .declares b.kind b.name s ∈ t.outline.mentions := by
  obtain ⟨table, htable, hp⟩ := exists_table hb
  obtain ⟨first, rest, hnamed, hprofile⟩ := Profile.ofTable?_eq_some_iff.1 hp
  have hkind : first.kind = b.kind := congrArg Profile.kind hprofile
  have hsites : (first :: rest).map (·.site) = b.sites := congrArg Profile.sites hprofile
  have hfirst : first ∈ table.filter (·.name = b.name) := hnamed ▸ List.mem_cons_self
  obtain ⟨hmem, hname⟩ := List.mem_filter.1 hfirst
  refine ⟨first.site, by rw [← hsites]; rfl, ?_⟩
  rw [← hkind, ← of_decide_eq_true hname]
  exact Outline.mention_of_table t.outline htable hmem

/-- No place is a site of a binding twice. -/
theorem ScopeTree.Separate.nodup_sites {t : ScopeTree} (h : t.Separate) {id : Nat} {b : Binding}
    (hb : t.bindings[id]? = some b) : b.sites.Nodup := by
  refine (h.sites hb).imp_of_mem fun {s s'} hs _ hapart heq => ?_
  subst heq
  exact Span.not_apart_self (h.byte hb s hs) hapart

/-- The second file has the outline of the first with softer declarations. -/
structure Tree.Softens (soft : Span → Prop) (t t' : Tree) : Prop where
  nested : t.root.IsNested
  nested' : t'.root.IsNested
  outline : Outline.Softens (fun _ => true) soft .file [t.outline] [t'.outline]

namespace Tree.Softens

open ScopeTree (ofTree)

variable {soft : Span → Prop} {t t' : Tree} {id : Nat} {b : Binding}

/-- The kinds of the regions stay, wherever one looks. -/
theorem isFunctionLikeAt_eq (h : t.Softens soft t') (offset : Nat) :
    (ofTree t').isFunctionLikeAt offset = (ofTree t).isFunctionLikeAt offset := by
  have hregions := h.outline.regionsAll_eq
  simp only [Outline.regions.regionsAll, List.append_nil] at hregions
  rw [ScopeTree.isFunctionLikeAt_eq, ScopeTree.isFunctionLikeAt_eq, hregions]

/-- Where a binding is declared, one is declared afterwards. -/
theorem exists_binding_of_site (h : t.Softens soft t') (hb : (ofTree t).bindings[id]? = some b) {s : Site}
    (hs : s ∈ b.sites) : ∃ (id' : Nat) (b' : Binding), (ofTree t').bindings[id']? = some b' ∧ s ∈ b'.sites := by
  obtain ⟨how, hm⟩ := (ScopeRecord.sound_outline t).sites_mentioned hb s hs
  obtain ⟨how', hm'⟩ := h.outline.declares_again (by simpa [Outline.mentions.mentionsAll] using hm)
  obtain ⟨id', b', hb', -, hs'⟩ := ScopeTree.exists_binding_of_mention h.nested'
    (by simpa [Outline.mentions.mentionsAll] using hm')
  exact ⟨id', b', hb', hs'⟩

/-- A binding of which no site is soft has its sites again, and its kind too if there are no more. -/
theorem exists_binding (h : t.Softens soft t') (hb : (ofTree t).bindings[id]? = some b)
    (hfirm : ∀ s ∈ b.sites, ¬ soft s.span) :
    ∃ (id' : Nat) (b' : Binding), (ofTree t').bindings[id']? = some b' ∧ b.sites ⊆ b'.sites ∧
      (b'.kind = b.kind ∨ 1 < b'.sites.length) := by
  obtain ⟨table, htable, hp⟩ := ScopeTree.exists_table hb
  have hsites : b.sites = (table.filter (·.name = b.name)).map (·.site) := Profile.sites_ofTable? hp
  obtain ⟨table', htable', hleft⟩ :=
    h.outline.exists_table (by simpa [Outline.tables.tablesAll] using htable)
  have hsubset : table.filter (·.name = b.name) ⊆ table'.filter (·.name = b.name) := by
    intro e he
    obtain ⟨hmem, hname⟩ := List.mem_filter.1 he
    refine List.mem_filter.2 ⟨(hleft e hmem).resolve_right (hfirm e.site ?_), hname⟩
    rw [hsites]
    exact List.mem_map_of_mem he
  obtain ⟨first, rest, hnamed, hprofile⟩ := Profile.ofTable?_eq_some_iff.1 hp
  have hfirst : first ∈ table'.filter (·.name = b.name) := hsubset (hnamed ▸ List.mem_cons_self)
  obtain ⟨first', rest', hnamed'⟩ := List.exists_cons_of_ne_nil (List.ne_nil_of_mem hfirst)
  obtain ⟨id', b', hb', -, hprofile'⟩ := ScopeTree.exists_binding
    (by simpa [Outline.tables.tablesAll] using htable') (Profile.ofTable?_eq_some_iff.2 ⟨first', rest', hnamed', rfl⟩)
  have hkind : first.kind = b.kind := congrArg Profile.kind hprofile
  have hkind' : b'.kind = first'.kind := congrArg Profile.kind hprofile'
  have hsites' : b'.sites = (first' :: rest').map (·.site) := congrArg Profile.sites hprofile'
  refine ⟨id', b', hb', ?_, ?_⟩
  · rw [hsites, hsites', ← hnamed']
    exact List.map_subset _ hsubset
  · -- if there is only one entry, it is the first one from before
    rw [hnamed'] at hfirst
    cases rest' with
    | nil =>
      rw [List.mem_singleton.1 hfirst] at hkind
      exact .inl (hkind'.trans hkind)
    | cons => exact .inr (by simp [hsites'])

/-- A reference to a binding with a single site, which is still declared by `var`, means that site again. -/
theorem exists_reference (h : t.Softens soft t') {r : Reference} (hr : r ∈ (ofTree t).references)
    (hid : r.binding = some id) (hb : (ofTree t).bindings[id]? = some b) {s : Site} (hone : b.sites = [s])
    {name : String} (hvar : .declares .varName name s ∈ t'.outline.mentions) :
    ∃ r' ∈ (ofTree t').references, r'.site = r.site ∧ ∃ (id' : Nat) (b' : Binding), r'.binding = some id' ∧
      (ofTree t').bindings[id']? = some b' ∧ s ∈ b'.sites := by
  have hmeaning : (ofTree t).meaning r = ⟨r.name, r.site, [s]⟩ := by
    simp [ScopeTree.meaning, hid, hb, hone]
  have hmem : (ofTree t).meaning r ∈ Outline.meanings.meaningsAll (fun _ => []) [t.outline] := by
    rw [Outline.meanings.meaningsAll, Outline.meaningsAll_nil, List.append_nil, ← ScopeTree.meanings_ofTree]
    exact List.mem_map_of_mem (Array.mem_toList_iff.2 hr)
  have hhard : ∀ {how : BindingKind} {name : String} {site : Site},
      .declares how name site ∈ Outline.mentions.mentionsAll [t'.outline] →
      (∃ name, .declares .varName name site ∈ t'.outline.mentions) → how = .varName := by
    rintro how name site hm ⟨name', hm'⟩
    rw [Outline.mentions.mentionsAll, Outline.mentionsAll_nil, List.append_nil] at hm
    have heq := Tree.mention_unique h.nested' hm hm' rfl
    cases heq
    rfl
  obtain ⟨m', hm', hsite, hsites⟩ := h.outline.meaning hhard (.nothing _ _) hmem
  rw [Outline.meanings.meaningsAll, Outline.meaningsAll_nil, List.append_nil, ← ScopeTree.meanings_ofTree] at hm'
  obtain ⟨r', hr', rfl⟩ := List.mem_map.1 hm'
  have hs := hsites s ⟨name, hvar⟩ (by rw [hmeaning])
  refine ⟨r', Array.mem_toList_iff.1 hr', hsite.trans (by rw [hmeaning]), ?_⟩
  cases hbinding : r'.binding.bind ((ofTree t').bindings[·]?) with
  | none =>
    simp only [ScopeTree.meaning, hbinding] at hs
    cases hs
  | some b' =>
    obtain ⟨id', hid', hb'⟩ := Option.bind_eq_some_iff.1 hbinding
    simp only [ScopeTree.meaning, hbinding] at hs
    exact ⟨id', b', hid', hb', hs⟩

end Tree.Softens

end ScriptTidy
