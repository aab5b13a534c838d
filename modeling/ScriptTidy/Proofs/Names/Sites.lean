import Mathlib.Data.List.Basic
import ScriptTidy.Proofs.Names.Places

/-!
# Every place belongs to one binding or reference

`Grows` says what reading an outline does to a record: bindings keep their regions, get more sites behind those they
have and stay exported, and every mention gets a place of its own. One step lemma for each of the four changes of a
record gives it for a whole outline (`grows_record`).

In the scope tree of a nested tree the places of the bindings and references are therefore apart
(`separate_ofTree`), and the binding found at a name's start is the binding of that name.
-/

namespace ScriptTidy

namespace ScopeRecord

variable {P : Mention → Prop} {d d' d'' : ScopeRecord} {opened : List Nat}

/-- The places of all bindings and references. -/
def places (d : ScopeRecord) : List Span :=
  (d.bindings.toList.map (·.sites)).flatten.map (·.span) ++ d.references.toList.map (·.site.span)

/-- Binding `id` is declared at a place that starts there. -/
def IsDeclaredAt (d : ScopeRecord) (start id : Nat) : Prop :=
  ∃ b, d.bindings[id]? = some b ∧ ∃ site ∈ b.sites, site.span.start = start

/-- What happens to a record when the mentions `ms` are read. -/
structure Grows (ms : List Mention) (d d' : ScopeRecord) : Prop where
  binding : ∀ {id : Nat} {b : Binding}, d.bindings[id]? = some b → ∃ b', d'.bindings[id]? = some b' ∧
    b'.scope = b.scope ∧ b.sites <+: b'.sites ∧ (b.exported = true → b'.exported = true)
  places : d'.places.Perm (ms.map Mention.span ++ d.places)
  declaredAt : ∀ {start id : Nat}, (start, id) ∈ d'.declaredAt → (start, id) ∈ d.declaredAt ∨ d'.IsDeclaredAt start id

namespace Grows

theorem refl (d : ScopeRecord) : Grows [] d d :=
  ⟨fun hb => ⟨_, hb, rfl, List.prefix_rfl, id⟩, .refl _, .inl⟩

theorem trans {ms ns : List Mention} (h : Grows ms d d') (h' : Grows ns d' d'') : Grows (ms ++ ns) d d'' := by
  refine ⟨?_, ?_, ?_⟩
  · intro id b hb
    obtain ⟨b', hb', hscope, hsites, hexported⟩ := h.binding hb
    obtain ⟨b'', hb'', hscope', hsites', hexported'⟩ := h'.binding hb'
    exact ⟨b'', hb'', hscope'.trans hscope, hsites.trans hsites', fun he => hexported' (hexported he)⟩
  · -- the mentions come in the other order, which a permutation does not see
    have hboth : d''.places.Perm (ns.map Mention.span ++ (ms.map Mention.span ++ d.places)) :=
      h'.places.trans (h.places.append_left _)
    rw [List.map_append, List.append_assoc]
    exact hboth.trans (List.perm_append_comm_assoc _ _ _)
  · intro start id hmem
    rcases h'.declaredAt hmem with hmem | hat
    · rcases h.declaredAt hmem with hmem | ⟨b, hb, site, hsite, hstart⟩
      · exact .inl hmem
      · obtain ⟨b', hb', -, hsites, -⟩ := h'.binding hb
        exact .inr ⟨b', hb', site, hsites.subset hsite, hstart⟩
    · exact .inr hat

theorem size_le {ms : List Mention} (h : Grows ms d d') : d.bindings.size ≤ d'.bindings.size := by
  by_contra hlt
  have hb := Array.getElem?_eq_getElem (Nat.lt_of_not_le hlt)
  obtain ⟨b', hb', -⟩ := h.binding hb
  have := (Array.getElem?_eq_some_iff.1 hb').1
  omega

end Grows

/-! ### The four changes -/

/-- A declaration adds a site to a binding, or a binding to the region that it belongs to. -/
theorem Sound.declare_cases (h : Sound P d) (opened : List Nat) (kind : BindingKind) (name : String) (site : Site) :
    (∃ id b, d.bindings[id]? = some b ∧ d.declare opened kind name site = d.addSite id site) ∨
      d.declare opened kind name site = d.addBinding (d.home opened kind) kind name site := by
  unfold ScopeRecord.declare
  dsimp only
  split
  · rename_i id hid
    obtain ⟨s, hs, hlookup⟩ := Option.bind_eq_some_iff.1 hid
    obtain ⟨b, hb, -, -⟩ := (h.lookup_iff hs name id).1 hlookup
    exact .inl ⟨id, b, hb, rfl⟩
  · exact .inr rfl

/-- One more entry in one of several lists is one more entry in all. -/
private theorem perm_flatten_modify {α : Type} (x : α) : ∀ (ls : List (List α)) (id : Nat), id < ls.length →
    (ls.modify id (· ++ [x])).flatten.Perm (x :: ls.flatten)
  | [], id, h => absurd h (Nat.not_lt_zero id)
  | l :: ls, 0, _ => by
    simp only [List.modify_zero_cons, List.flatten_cons, List.append_assoc, List.singleton_append]
    exact List.perm_middle
  | l :: ls, id + 1, h => by
    simp only [List.modify_succ_cons, List.flatten_cons]
    have hrest := perm_flatten_modify x ls id (by simpa using h)
    exact (hrest.append_left l).trans List.perm_middle

theorem getElem?_bindings_addSite {id : Nat} {site : Site} (i : Nat) : (d.addSite id site).bindings[i]? =
    if id = i then d.bindings[i]?.map fun b => { b with sites := b.sites ++ [site] } else d.bindings[i]? := by
  simp only [addSite, Array.getElem?_modify]

private theorem grows_addSite {id : Nat} {b : Binding} (hb : d.bindings[id]? = some b) (kind : BindingKind)
    (name : String) (site : Site) : Grows [.declares kind name site] d (d.addSite id site) := by
  refine ⟨?_, ?_, ?_⟩
  · intro i c hc
    rw [getElem?_bindings_addSite, hc]
    split
    · exact ⟨_, rfl, rfl, List.prefix_append _ _, fun he => he⟩
    · exact ⟨c, rfl, rfl, List.prefix_rfl, fun he => he⟩
  · have hid : id < (d.bindings.toList.map (·.sites)).length := by
      simpa using (Array.getElem?_eq_some_iff.1 hb).1
    have hsites : (d.addSite id site).bindings.toList.map (·.sites) =
        (d.bindings.toList.map (·.sites)).modify id (· ++ [site]) := by
      apply List.ext_getElem?
      intro i
      simp only [List.getElem?_map, Array.getElem?_toList, getElem?_bindings_addSite, List.getElem?_modify]
      split <;> cases d.bindings[i]? <;> rfl
    unfold places
    rw [hsites]
    exact ((perm_flatten_modify site _ id hid).map _).append_right _
  · intro start i hmem
    rcases List.mem_cons.1 hmem with heq | hmem
    · cases heq
      have hb' : (d.addSite id site).bindings[id]? = some { b with sites := b.sites ++ [site] } := by
        rw [getElem?_bindings_addSite, if_pos rfl, hb]
        rfl
      exact .inr ⟨_, hb', site, by simp, rfl⟩
    · exact .inl hmem

private theorem grows_addBinding (scope : Nat) (kind : BindingKind) (name : String) (site : Site) :
    Grows [.declares kind name site] d (d.addBinding scope kind name site) := by
  refine ⟨?_, ?_, ?_⟩
  · intro i c hc
    have hlt := (Array.getElem?_eq_some_iff.1 hc).1
    refine ⟨c, ?_, rfl, List.prefix_rfl, id⟩
    simpa [addBinding, Array.getElem?_push, Nat.ne_of_lt hlt] using hc
  · have hplaces : (d.addBinding scope kind name site).places =
        (d.bindings.toList.map (·.sites)).flatten.map (·.span) ++
          site.span :: d.references.toList.map (·.site.span) := by
      simp [places, addBinding]
    rw [hplaces]
    exact List.perm_middle
  · intro start i hmem
    rcases List.mem_cons.1 hmem with heq | hmem
    · cases heq
      have hb' : (d.addBinding scope kind name site).bindings[d.bindings.size]? =
          some ⟨d.bindings.size, name, kind, scope, [site], false⟩ := by simp [addBinding]
      exact .inr ⟨_, hb', site, by simp, rfl⟩
    · exact .inl hmem

private theorem grows_declare (h : Sound P d) (opened : List Nat) (kind : BindingKind) (name : String) (site : Site) :
    Grows [.declares kind name site] d (d.declare opened kind name site) := by
  rcases h.declare_cases opened kind name site with ⟨id, b, hb, heq⟩ | heq
  · rw [heq]
    exact grows_addSite hb kind name site
  · rw [heq]
    exact grows_addBinding _ kind name site

private theorem grows_refer (opened : List Nat) (name : String) (site : Site) :
    Grows [.refers name site] d (d.refer opened name site) := by
  refine ⟨fun hb => ⟨_, hb, rfl, List.prefix_rfl, id⟩, ?_, .inl⟩
  have hplaces : (d.refer opened name site).places = d.places ++ [site.span] := by simp [places, refer]
  rw [hplaces]
  exact List.perm_append_singleton _ _

private theorem grows_openScope (opened : List Nat) (kind : ScopeKind) (span : Span) :
    Grows [] d (d.openScope opened kind span) :=
  ⟨fun hb => ⟨_, hb, rfl, List.prefix_rfl, id⟩, .refl _, .inl⟩

theorem getElem?_bindings_markExported (first scope i : Nat) : (d.markExported first scope).bindings[i]? =
    d.bindings[i]?.map fun b => if first ≤ i ∧ b.scope = scope then { b with exported := true } else b := by
  simp [markExported]

theorem grows_markExported (first scope : Nat) : Grows [] d (d.markExported first scope) := by
  refine ⟨?_, ?_, .inl⟩
  · intro i b hb
    rw [getElem?_bindings_markExported, hb]
    refine ⟨_, rfl, ?_⟩
    dsimp only
    split
    · exact ⟨rfl, List.prefix_rfl, fun _ => rfl⟩
    · exact ⟨rfl, List.prefix_rfl, id⟩
  · have hsites : (d.markExported first scope).bindings.toList.map (·.sites) = d.bindings.toList.map (·.sites) := by
      apply List.ext_getElem?
      intro i
      simp only [List.getElem?_map, Array.getElem?_toList, getElem?_bindings_markExported, Option.map_map]
      cases d.bindings[i]? with
      | none => rfl
      | some b =>
        simp only [Option.map_some, Function.comp]
        split <;> rfl
    unfold places
    rw [hsites]
    exact .refl _

/-! ### A whole outline -/

/-- Reading an outline makes a record grow by the outline's mentions, and keeps it sound. -/
theorem grows_record : ∀ (o : Outline) (opened : List Nat) (d : ScopeRecord), (∀ m ∈ o.mentions, P m) →
    d.IsOpen opened → Sound P d → Grows o.mentions d (o.record opened d)
  | .declare kind name site, opened, d, _, _, hd => grows_declare hd opened kind name site
  | .refer name site, opened, d, _, _, _ => grows_refer opened name site
  | .scope kind span parts, opened, d, hP, hopen, hd => by
    have hopen' := IsOpen.openScope hopen.lt_size kind span
    have hd' := (Sound.kept P).openScope d opened kind span hopen hd
    exact (grows_openScope opened kind span).trans (grows_recordAll parts _ _ hP hopen' hd')
  | .exported parts, opened, d, hP, hopen, hd => by
    have hparts := (grows_recordAll parts opened d hP hopen hd).trans
      (grows_markExported d.bindings.size (current opened))
    rwa [List.append_nil] at hparts
where
  grows_recordAll : ∀ (os : List Outline) (opened : List Nat) (d : ScopeRecord),
      (∀ m ∈ Outline.mentions.mentionsAll os, P m) → d.IsOpen opened → Sound P d →
      Grows (Outline.mentions.mentionsAll os) d (Outline.record.recordAll opened os d)
    | [], _, d, _, _, _ => .refl d
    | o :: os, opened, d, hP, hopen, hd => by
      have hP' : ∀ m ∈ o.mentions, P m := fun m hm => hP m (List.mem_append_left _ hm)
      obtain ⟨hd', hsize⟩ := (Sound.kept P).record o opened d hP' hopen hd
      exact (grows_record o opened d hP' hopen hd).trans
        (grows_recordAll os opened _ (fun m hm => hP m (List.mem_append_right _ hm)) (hopen.mono hsize) hd')

/-- The table of starts has all sites of the bindings. -/
private def Listed (d : ScopeRecord) : Prop :=
  ∀ (id : Nat) (b : Binding), d.bindings[id]? = some b → ∀ s ∈ b.sites, (s.span.start, id) ∈ d.declaredAt

private theorem listed_kept : Kept (fun _ => True) Listed where
  declare d opened kind name site _ _ h := by
    unfold declare
    dsimp only
    split
    · intro i b hb s hs
      rw [getElem?_bindings_addSite] at hb
      split at hb
      · rename_i hsame
        obtain ⟨old, hold, rfl⟩ := Option.map_eq_some_iff.1 hb
        rcases List.mem_append.1 hs with hs | hs
        · exact List.mem_cons_of_mem _ (h _ _ hold s hs)
        · obtain rfl := List.mem_singleton.1 hs
          exact hsame ▸ List.mem_cons_self
      · exact List.mem_cons_of_mem _ (h _ _ hb s hs)
    · intro i b hb s hs
      simp only [addBinding, Array.getElem?_push] at hb
      split at hb
      · rename_i hnew
        obtain rfl := Option.some.inj hb
        obtain rfl := List.mem_singleton.1 hs
        exact hnew ▸ List.mem_cons_self
      · exact List.mem_cons_of_mem _ (h _ _ hb s hs)
  refer _ _ _ _ _ _ h := h
  openScope _ _ _ _ _ h := h
  markExported d first scope h := by
    intro i b hb s hs
    rw [getElem?_bindings_markExported] at hb
    obtain ⟨old, hold, rfl⟩ := Option.map_eq_some_iff.1 hb
    refine h _ _ hold s ?_
    split at hs <;> exact hs

private theorem listed_outline (t : Tree) : Listed (t.outline.record [] empty) := by
  have hopen : (empty.openScope [] .file t.root.fullSpan).IsOpen [0] := .openScope (by simp) .file t.root.fullSpan
  refine (Kept.record.recordAll listed_kept _ [0] _ (fun _ _ => trivial) hopen ?_).1
  intro id b hb
  simp [openScope, empty] at hb

/-- Reading the outline of a tree. -/
private theorem grows_outline (t : Tree) : Grows t.outline.mentions empty (t.outline.record [] empty) := by
  have hopen : (empty.openScope [] .file t.root.fullSpan).IsOpen [0] := .openScope (by simp) .file t.root.fullSpan
  exact (grows_openScope [] .file t.root.fullSpan).trans
    (grows_record.grows_recordAll _ [0] _ (fun _ hm => hm) hopen (sound_file (· ∈ t.outline.mentions) _))

/-- The places of the record are those that the tree mentions. -/
private theorem perm_places (t : Tree) :
    (t.outline.record [] empty).places.Perm (t.outline.mentions.map Mention.span) := by
  simpa [places, empty] using (grows_outline t).places

end ScopeRecord

/-! ### The whole scope tree -/

namespace ScopeTree

/-- The places of bindings and references hold bytes and are apart, and what is found at the start of a place is a
binding that is declared there. -/
structure Separate (t : ScopeTree) : Prop where
  byte : ∀ {id : Nat} {b : Binding}, t.bindings[id]? = some b → ∀ s ∈ b.sites, s.span.start < s.span.stop
  sites : ∀ {id : Nat} {b : Binding}, t.bindings[id]? = some b → b.sites.Pairwise fun s s' => s.span.Apart s'.span
  bindings : ∀ {i j : Nat} {b c : Binding}, t.bindings[i]? = some b → t.bindings[j]? = some c → i ≠ j →
    ∀ s ∈ b.sites, ∀ s' ∈ c.sites, s.span.Apart s'.span
  references : ∀ {id : Nat} {b : Binding}, t.bindings[id]? = some b → ∀ r ∈ t.references, ∀ s ∈ b.sites,
    s.span.Apart r.site.span
  bindingAt : ∀ {span : Span} {id : Nat}, t.bindingAt? span = some id →
    ∃ b, t.bindings[id]? = some b ∧ ∃ s ∈ b.sites, s.span.start = span.start

/-- Places with the same start belong to one binding. -/
theorem Separate.eq_of_start {t : ScopeTree} (h : t.Separate) {i j : Nat} {b c : Binding}
    (hb : t.bindings[i]? = some b) (hc : t.bindings[j]? = some c) {s s' : Site} (hs : s ∈ b.sites) (hs' : s' ∈ c.sites)
    (hstart : s.span.start = s'.span.start) : i = j := by
  by_contra hne
  have hbyte := h.byte hb s hs
  have hbyte' := h.byte hc s' hs'
  rcases h.bindings hb hc hne s hs s' hs' with hapart | hapart <;> omega

/-- It is enough that the places of a record are scattered and that its table of starts is right. -/
private theorem separate_ofRecord {d : ScopeRecord} {span : Span} (h : span.Scattered d.places)
    (hat : ∀ {start id : Nat}, (start, id) ∈ d.declaredAt → d.IsDeclaredAt start id) : (ofRecord d).Separate := by
  obtain ⟨hsites, -, hcross⟩ := List.pairwise_append.1 h.apart
  rw [List.pairwise_map, List.pairwise_flatten] at hsites
  obtain ⟨hown, hpair⟩ := hsites
  rw [List.pairwise_iff_getElem] at hpair
  have hmem : ∀ {id : Nat} {b : Binding}, d.bindings[id]? = some b → b.sites ∈ d.bindings.toList.map (·.sites) :=
    fun hb => List.mem_map.2 ⟨_, Array.mem_toList_iff.2 (Array.mem_of_getElem? hb), rfl⟩
  have hplace : ∀ {id : Nat} {b : Binding}, d.bindings[id]? = some b → ∀ s ∈ b.sites,
      s.span ∈ (d.bindings.toList.map (·.sites)).flatten.map (·.span) :=
    fun hb s hs => List.mem_map_of_mem (List.mem_flatten.2 ⟨_, hmem hb, hs⟩)
  have hlt : ∀ {i j : Nat} {b c : Binding}, d.bindings[i]? = some b → d.bindings[j]? = some c → i < j →
      ∀ s ∈ b.sites, ∀ s' ∈ c.sites, s.span.Apart s'.span := by
    intro i j b c hb hc hij s hs s' hs'
    obtain ⟨hi, rfl⟩ := Array.getElem?_eq_some_iff.1 hb
    obtain ⟨hj, rfl⟩ := Array.getElem?_eq_some_iff.1 hc
    exact hpair i j (by simpa using hi) (by simpa using hj) hij s (by simpa using hs) s' (by simpa using hs')
  refine ⟨?_, fun hb => hown _ (hmem hb), ?_, ?_, ?_⟩
  · intro id b hb s hs
    exact h.byte _ (List.mem_append_left _ (hplace hb s hs))
  · intro i j b c hb hc hne s hs s' hs'
    rcases Nat.lt_or_gt_of_ne hne with hij | hij
    · exact hlt hb hc hij s hs s' hs'
    · exact (hlt hc hb hij s' hs' s hs).symm
  · intro id b hb r hr s hs
    -- to resolve a reference leaves its place alone
    obtain ⟨r₀, hr₀, rfl⟩ := Array.mem_map.1 hr
    exact hcross _ (hplace hb s hs) _ (List.mem_map.2 ⟨r₀, Array.mem_toList_iff.2 hr₀, rfl⟩)
  · intro span id hid
    obtain ⟨front, back, heq, -⟩ := List.lookup_eq_some_iff.1 hid
    exact hat (show _ ∈ (ofRecord d).declaredAt by rw [heq]; simp)

/-- The places of the record of a nested tree are scattered. -/
theorem scattered_record {t : Tree} (h : t.root.IsNested) :
    t.root.span.Scattered (t.outline.record [] .empty).places :=
  (Tree.scattered_places h).of_perm (ScopeRecord.perm_places t).symm

/-- In a nested tree, no place is taken twice. -/
theorem separate_ofTree {t : Tree} (h : t.root.IsNested) : (ofTree t).Separate := by
  refine separate_ofRecord (scattered_record h) fun hmem => ?_
  exact ((ScopeRecord.grows_outline t).declaredAt hmem).resolve_left (by simp [ScopeRecord.empty])

/-- A place where a binding is declared leads to the binding. -/
theorem bindingAt?_eq {t : Tree} (h : t.root.IsNested) {id : Nat} {b : Binding}
    (hb : (ofTree t).bindings[id]? = some b) {s : Site} (hs : s ∈ b.sites) {span : Span}
    (hstart : s.span.start = span.start) : (ofTree t).bindingAt? span = some id := by
  have hlisted : (s.span.start, id) ∈ (ofTree t).declaredAt := ScopeRecord.listed_outline t id b hb s hs
  cases hat : (ofTree t).bindingAt? span with
  | none =>
    have hnone := List.lookup_eq_none_iff.1 hat _ hlisted
    simp [hstart] at hnone
  | some other =>
    obtain ⟨c, hc, s', hs', hstart'⟩ := (separate_ofTree h).bindingAt hat
    rw [(separate_ofTree h).eq_of_start hc hb hs' hs (hstart'.trans hstart.symm)]

/-- Where a name is declared, it has a binding. -/
theorem exists_binding_of_mention {t : Tree} (h : t.root.IsNested) {how : BindingKind} {name : String} {site : Site}
    (hm : .declares how name site ∈ t.outline.mentions) :
    ∃ (id : Nat) (b : Binding), (ofTree t).bindings[id]? = some b ∧ b.name = name ∧ site ∈ b.sites := by
  have hsound := ScopeRecord.sound_outline t
  have hplace : site.span ∈ (t.outline.record [] .empty).places :=
    (ScopeRecord.perm_places t).mem_iff.2 (List.mem_map.2 ⟨_, hm, rfl⟩)
  rcases List.mem_append.1 hplace with hplace | hplace
  · obtain ⟨site', hsite', hspan⟩ := List.mem_map.1 hplace
    obtain ⟨sites, hsites, hmem⟩ := List.mem_flatten.1 hsite'
    obtain ⟨b, hb, rfl⟩ := List.mem_map.1 hsites
    obtain ⟨id, hid⟩ := Array.getElem?_of_mem (Array.mem_toList_iff.1 hb)
    obtain ⟨how', hm'⟩ := hsound.sites_mentioned hid site' hmem
    have heq := Tree.mention_unique h hm hm' hspan.symm
    cases heq
    exact ⟨id, b, hid, rfl, hmem⟩
  · -- no reference stands there
    obtain ⟨r, hr, hspan⟩ := List.mem_map.1 hplace
    obtain ⟨k, hk⟩ := Array.getElem?_of_mem (Array.mem_toList_iff.1 hr)
    have heq := Tree.mention_unique h hm (hsound.references_mentioned hk) hspan.symm
    cases heq

/-- In a nested tree, the places of the references hold bytes and are apart. -/
theorem scattered_references {t : Tree} (h : t.root.IsNested) :
    t.root.span.Scattered ((ofTree t).references.toList.map (·.site.span)) := by
  have hsites : (ofTree t).references.toList.map (·.site.span) =
      (t.outline.record [] .empty).references.toList.map (·.site.span) := by
    simp [ofTree, ofRecord, Function.comp_def]
  have hplaces := scattered_record h
  rw [hsites]
  exact ⟨fun r hr => hplaces.inside r (List.mem_append_right _ hr),
    fun r hr => hplaces.byte r (List.mem_append_right _ hr), (List.pairwise_append.1 hplaces.apart).2.1⟩

end ScopeTree

end ScriptTidy
