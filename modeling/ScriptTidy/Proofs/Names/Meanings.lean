import ScriptTidy.Proofs.Names.Tables

/-!
# What references mean

`Outline.meanings` says what the references of an outline mean, by recursion over the outline: inside a region, a name
means the places where the region declares it, and if there are none, what it means outside. Which declarations a
region takes is said by `Outline.declared`: the names and places of its entries (`declared_eq`).

A scope tree is made in two passes, with numbers for regions and bindings. It means the same (`meanings_ofTree`). While
the parts of a region are read, what they declare is added to it (`sitesAt_recordAll`), and their references are noted
with the number of the region; the regions around that number are the open ones (`meanings_record`).
-/

namespace ScriptTidy

/-- A reference with the places where the name that it means is declared. -/
structure Meaning where
  name : String
  site : Site
  /-- There are none if the name means nothing in this file. -/
  sites : List Site
  deriving DecidableEq, Repr

namespace Outline

/-- The names that an outline declares for a region around it, which accepts some kinds of declarations. -/
def declared (accepts : BindingKind → Bool) : Outline → List (String × Site)
  | declare kind name site => if accepts kind then [(name, site)] else []
  | refer _ _ => []
  | scope kind _ parts => declaredAll (fun how => how = .varName && !kind.isFunctionLike && accepts how) parts
  | exported parts => declaredAll accepts parts
where
  declaredAll (accepts : BindingKind → Bool) : List Outline → List (String × Site)
    | [] => []
    | o :: os => o.declared accepts ++ declaredAll accepts os

/-- The places at which a name is declared. -/
def sitesOf (name : String) (ds : List (String × Site)) : List Site := (ds.filter (·.1 = name)).map (·.2)

/-- What names mean inside a region, when they have the meanings `outer` outside. -/
def inside (kind : ScopeKind) (parts : List Outline) (outer : String → List Site) (name : String) : List Site :=
  if sitesOf name (declared.declaredAll kind.accepts parts) = [] then outer name
  else sitesOf name (declared.declaredAll kind.accepts parts)

/-- What the references of an outline mean, when names have the meanings `outer` around it. -/
def meanings (outer : String → List Site) : Outline → List Meaning
  | declare _ _ _ => []
  | refer name site => [⟨name, site, outer name⟩]
  | scope kind _ parts => meaningsAll (inside kind parts outer) parts
  | exported parts => meaningsAll outer parts
where
  meaningsAll (outer : String → List Site) : List Outline → List Meaning
    | [] => []
    | o :: os => o.meanings outer ++ meaningsAll outer os

open declared meanings

@[simp] theorem sitesOf_nil (name : String) : sitesOf name [] = [] := rfl

@[simp] theorem sitesOf_append (name : String) (ds es : List (String × Site)) :
    sitesOf name (ds ++ es) = sitesOf name ds ++ sitesOf name es := by
  simp [sitesOf]

theorem mem_sitesOf {name : String} {ds : List (String × Site)} {site : Site} :
    site ∈ sitesOf name ds ↔ (name, site) ∈ ds := by
  simp [sitesOf]

@[simp] theorem declaredAll_nil (accepts : BindingKind → Bool) : declaredAll accepts [] = [] := rfl

@[simp] theorem declaredAll_append (accepts : BindingKind → Bool) (os ps : List Outline) :
    declaredAll accepts (os ++ ps) = declaredAll accepts os ++ declaredAll accepts ps := by
  induction os with
  | nil => rfl
  | cons o os ih => simp [declaredAll, ih]

@[simp] theorem meaningsAll_nil (outer : String → List Site) : meaningsAll outer [] = [] := rfl

@[simp] theorem meaningsAll_append (outer : String → List Site) (os ps : List Outline) :
    meaningsAll outer (os ++ ps) = meaningsAll outer os ++ meaningsAll outer ps := by
  induction os with
  | nil => rfl
  | cons o os ih => simp [meaningsAll, ih]

/-- What is declared for a region are its entries. -/
theorem declared_eq (accepts : BindingKind → Bool) (direct : Bool) : ∀ o : Outline,
    o.declared accepts = (o.entries accepts direct).map fun e => (e.name, e.site)
  | declare kind name site => by
    unfold declared entries
    split <;> rfl
  | refer name site => rfl
  | scope kind span parts => declaredAll_eq _ false parts
  | exported parts => by
    rw [declared, entries, declaredAll_eq accepts direct parts, List.map_map]
    rfl
where
  declaredAll_eq (accepts : BindingKind → Bool) (direct : Bool) : ∀ os : List Outline,
      declaredAll accepts os = (entries.entriesAll accepts direct os).map fun e => (e.name, e.site)
    | [] => rfl
    | o :: os => by
      rw [declaredAll, entries.entriesAll, List.map_append, declared_eq accepts direct o,
        declaredAll_eq accepts direct os]

/-- A region that accepts nothing gets nothing. -/
theorem declaredAll_of_none {accepts : BindingKind → Bool} (h : ∀ how, accepts how = false) (os : List Outline) :
    declaredAll accepts os = [] := by
  rw [declared_eq.declaredAll_eq accepts false, entriesAll_of_none h, List.map_nil]

end Outline

namespace ScopeRecord

open Outline.declared (declaredAll)
open Outline.meanings (meaningsAll)

variable {P : Mention → Prop} {d d' : ScopeRecord} {opened : List Nat}

/-- The places at which a region declares a name. -/
def sitesAt (d : ScopeRecord) (id : Nat) (name : String) : List Site :=
  ((d.scopes[id]?.bind (·.lookup name)).bind (d.bindings[·]?)).elim [] (·.sites)

/-- The places at which the first of some regions that declares a name declares it. -/
def sitesAlong (d : ScopeRecord) (name : String) : List Nat → List Site
  | [] => []
  | id :: ids => if d.sitesAt id name = [] then d.sitesAlong name ids else d.sitesAt id name

private theorem sitesAt_of_lookup {id b : Nat} {s : Scope} {name : String} {bd : Binding} (hs : d.scopes[id]? = some s)
    (hlookup : s.lookup name = some b) (hb : d.bindings[b]? = some bd) : d.sitesAt id name = bd.sites := by
  simp [sitesAt, hs, hlookup, hb]

private theorem sitesAt_of_lookup_eq_none {id : Nat} {name : String} (h : d.scopes[id]?.bind (·.lookup name) = none) :
    d.sitesAt id name = [] := by
  simp [sitesAt, h]

/-- A region that declares a name has places where it does. -/
private theorem Sound.sitesAt_ne_nil (h : Sound P d) {id b : Nat} {s : Scope} {name : String}
    (hs : d.scopes[id]? = some s) (hlookup : s.lookup name = some b) : d.sitesAt id name ≠ [] := by
  obtain ⟨bd, hb, -, -⟩ := (h.lookup_iff hs name b).1 hlookup
  rw [sitesAt_of_lookup hs hlookup hb]
  exact h.sites_ne_nil hb

/-! ### What an outline declares -/

/-- A region that is being opened declares nothing yet. -/
private theorem sitesAt_openScope_self (kind : ScopeKind) (span : Span) (name : String) :
    (d.openScope opened kind span).sitesAt d.scopes.size name = [] := by
  simp [sitesAt, openScope, Scope.lookup]

@[simp] theorem sitesAt_markExported (first scope id : Nat) (name : String) :
    (d.markExported first scope).sitesAt id name = d.sitesAt id name := by
  unfold sitesAt
  have hscopes : (d.markExported first scope).scopes = d.scopes := rfl
  rw [hscopes]
  cases d.scopes[id]?.bind (·.lookup name) with
  | none => rfl
  | some b =>
    rw [Option.bind_some, Option.bind_some, getElem?_bindings_markExported]
    cases d.bindings[b]? with
    | none => rfl
    | some bd =>
      rw [Option.map_some]
      split <;> rfl

/-- The places at which a region declares a name are those of its profile. -/
private theorem sitesAt_eq (d : ScopeRecord) (id : Nat) (name : String) :
    d.sitesAt id name = (d.profileAt id name).elim [] (·.sites) := by
  unfold sitesAt profileAt
  cases (d.scopes[id]?.bind (·.lookup name)).bind (d.bindings[·]?) <;> rfl

/-- Outlines add to a region what they declare for it. -/
theorem sitesAt_recordAll (os : List Outline) {id : Nat} (name : String) (hopen : d.IsOpen opened)
    (hd : Sound (fun _ => True) d) (hid : id < d.scopes.size) :
    (Outline.record.recordAll opened os d).sitesAt id name =
      d.sitesAt id name ++ Outline.sitesOf name (declaredAll (fun how => d.home opened how = id) os) := by
  rw [sitesAt_eq, sitesAt_eq, profileAt_record.profileAt_recordAll os opened d id name hopen hd hid,
    Profile.sites_extend, Outline.declared_eq.declaredAll_eq _ (decide (current opened = id)) os, Outline.sitesOf,
    List.filter_map, List.map_map]
  rfl

/-! ### What the references mean -/

/-- In `last`, which comes later, the regions that were opened between `d` and `d'` are as they are in `d'`. -/
structure Finishes (d d' last : ScopeRecord) : Prop where
  descends : Scope.Descends last.scopes
  frames : d'.frames <+: last.frames
  sites : ∀ {id : Nat}, d.scopes.size ≤ id → id < d'.scopes.size → ∀ name, last.sitesAt id name = d'.sitesAt id name

/-- What a reference means by the tables of a record. -/
def meaningAt (d : ScopeRecord) (r : Reference) : Meaning :=
  ⟨r.name, r.site, d.sitesAlong r.name (Scope.chain d.scopes r.scope)⟩

/-- The new region lies inside the open ones, in every later record. -/
private theorem chain_openScope (hopen : d.IsOpen opened) {kind : ScopeKind} {span : Span} {last : ScopeRecord}
    (hdescends : Scope.Descends last.scopes) (hframes : (d.openScope opened kind span).frames <+: last.frames)
    (hchain : Scope.chain last.scopes (current opened) = opened) :
    Scope.chain last.scopes d.scopes.size = d.scopes.size :: opened := by
  obtain ⟨more, hmore⟩ := hframes
  have hframe : last.frames[d.scopes.size]? = some ⟨kind, opened.head?, span⟩ := by
    rw [← hmore, frames_openScope]
    simp
  rw [getElem?_frames] at hframe
  obtain ⟨s, hs, hs'⟩ := Option.map_eq_some_iff.1 hframe
  have hparent : s.parent = some (current opened) := by
    obtain ⟨id, rest, rfl⟩ := List.exists_cons_of_ne_nil hopen.ne_nil
    exact congrArg Frame.parent hs'
  rw [Scope.chain_of_parent hdescends hs hparent, hchain]

@[simp] theorem references_declare (how : BindingKind) (name : String) (site : Site) :
    (d.declare opened how name site).references = d.references := by
  unfold declare
  dsimp only
  split <;> rfl

/-- The references that an outline adds mean in the end what they mean in the outline. -/
theorem meanings_record : ∀ (o : Outline) {opened : List Nat} {d last : ScopeRecord}, d.IsOpen opened →
    Sound (fun _ => True) d → Finishes d (o.record opened d) last →
    Scope.chain last.scopes (current opened) = opened →
    ∃ rs, (o.record opened d).references.toList = d.references.toList ++ rs ∧
      rs.map last.meaningAt = o.meanings fun name => last.sitesAlong name opened
  | .declare how name site, opened, d, last, _, _, _, _ => ⟨[], by simp [Outline.record], rfl⟩
  | .refer name site, opened, d, last, _, _, _, hchain => by
    refine ⟨[⟨name, site, current opened, none⟩], by simp [Outline.record, refer], ?_⟩
    simp [meaningAt, Outline.meanings, hchain]
  | .scope kind span parts, opened, d, last, hopen, hd, hlast, hchain => by
    have hsize : (d.openScope opened kind span).scopes.size = d.scopes.size + 1 := by simp [openScope]
    have hopen' := IsOpen.openScope hopen.lt_size kind span
    have hd' := (Sound.kept _).openScope d opened kind span hopen hd
    have hframes := frames_recordAll parts hopen'
    have hle := size_le_of_frames hframes
    obtain ⟨rs, hrs, hmeanings⟩ := meanings_recordAll parts hopen' hd'
      ⟨hlast.descends, hlast.frames, fun hge hlt => hlast.sites (by omega) hlt⟩
      (chain_openScope hopen hlast.descends (hframes.trans hlast.frames) hchain)
    refine ⟨rs, hrs, hmeanings.trans ?_⟩
    rw [Outline.meanings]
    congr 1
    funext name
    -- the new region declares in the end what its parts declare for it
    have hsites : last.sitesAt d.scopes.size name = Outline.sitesOf name (declaredAll kind.accepts parts) := by
      rw [hlast.sites (Nat.le_refl _) (by rw [Outline.record]; omega), Outline.record,
        sitesAt_recordAll parts name hopen' hd' (by omega), sitesAt_openScope_self,
        List.nil_append]
      congr 2
      funext how
      have hlt := hopen.home_lt how
      rw [home_openScope hopen]
      cases kind.accepts how with
      | true => simp
      | false => simp [Nat.ne_of_lt hlt]
    rw [sitesAlong, hsites, Outline.inside]
  | .exported parts, opened, d, last, hopen, hd, hlast, hchain => by
    have hinner : Finishes d (Outline.record.recordAll opened parts d) last := by
      refine ⟨hlast.descends, ?_, fun hge hlt name => ?_⟩
      · have hframes := hlast.frames
        rwa [Outline.record, frames_markExported] at hframes
      · rw [hlast.sites hge hlt, Outline.record, sitesAt_markExported]
    exact meanings_recordAll parts hopen hd hinner hchain
where
  meanings_recordAll : ∀ (os : List Outline) {opened : List Nat} {d last : ScopeRecord}, d.IsOpen opened →
      Sound (fun _ => True) d → Finishes d (Outline.record.recordAll opened os d) last →
      Scope.chain last.scopes (current opened) = opened →
      ∃ rs, (Outline.record.recordAll opened os d).references.toList = d.references.toList ++ rs ∧
        rs.map last.meaningAt = meaningsAll (fun name => last.sitesAlong name opened) os
    | [], opened, d, last, _, _, _, _ => ⟨[], by simp [Outline.record.recordAll], rfl⟩
    | o :: os, opened, d, last, hopen, hd, hlast, hchain => by
      obtain ⟨hd', hsize⟩ := (Sound.kept _).record o opened d (fun _ _ => trivial) hopen hd
      have hopen' := hopen.mono hsize
      have hframes := frames_recordAll os hopen'
      have hle := size_le_of_frames hframes
      rw [Outline.record.recordAll] at hlast
      have hfirst : Finishes d (o.record opened d) last := by
        refine ⟨hlast.descends, hframes.trans hlast.frames, fun {id} hge hlt name => ?_⟩
        -- the regions that the first part opens are closed when the others are read
        have hclosed : ∀ how, decide ((o.record opened d).home opened how = id) = false := by
          intro how
          have hhome := hopen.home_lt how
          rw [home_of_frames (frames_record o hopen) hopen]
          exact decide_eq_false (by omega)
        rw [hlast.sites hge (by omega), sitesAt_recordAll os name hopen' hd' hlt,
          Outline.declaredAll_of_none hclosed, Outline.sitesOf_nil, List.append_nil]
      obtain ⟨rs, hrs, hmeanings⟩ := meanings_record o hopen hd hfirst hchain
      obtain ⟨ts, hts, hmeanings'⟩ := meanings_recordAll os hopen' hd'
        ⟨hlast.descends, hlast.frames, fun hge hlt => hlast.sites (by omega) hlt⟩ hchain
      refine ⟨rs ++ ts, ?_, ?_⟩
      · rw [Outline.record.recordAll, hts, hrs, List.append_assoc]
      · rw [List.map_append, hmeanings, hmeanings', meaningsAll]

end ScopeRecord

/-! ### The whole scope tree -/

namespace ScopeTree

/-- What a reference means: the places at which its binding is declared. -/
def meaning (t : ScopeTree) (r : Reference) : Meaning :=
  ⟨r.name, r.site, (r.binding.bind (t.bindings[·]?)).elim [] (·.sites)⟩

/-- To look a name up in some regions, and then its binding, gives the places where the first of the regions declares
it. -/
private theorem sitesAlong_eq {P : Mention → Prop} {d : ScopeRecord} (h : ScopeRecord.Sound P d) (name : String) :
    ∀ ids : List Nat, d.sitesAlong name ids =
      ((ids.findSome? fun id => d.scopes[id]?.bind (·.lookup name)).bind (d.bindings[·]?)).elim [] (·.sites)
  | [] => rfl
  | id :: ids => by
    have ih := sitesAlong_eq h name ids
    rw [ScopeRecord.sitesAlong, List.findSome?_cons]
    cases hlookup : d.scopes[id]?.bind (·.lookup name) with
    | none => rw [if_pos (ScopeRecord.sitesAt_of_lookup_eq_none hlookup), ih]
    | some b =>
      obtain ⟨s, hs, hb⟩ := Option.bind_eq_some_iff.1 hlookup
      rw [if_neg (h.sitesAt_ne_nil hs hb), ScopeRecord.sitesAt, hlookup]

/-- The references of a scope tree mean what they mean in the outline. -/
theorem meanings_ofTree (t : Tree) :
    (ofTree t).references.toList.map (ofTree t).meaning = t.outline.meanings fun _ => [] := by
  let start := ScopeRecord.empty.openScope [] .file t.root.fullSpan
  let parts := Node.outline.outlineAll t.source (fun _ => some .code) t.root.children
  let last := Outline.record.recordAll [0] parts start
  have hrecord : t.outline.record [] .empty = last := rfl
  have hopen : start.IsOpen [0] := .openScope (by simp) .file t.root.fullSpan
  have hsound : ScopeRecord.Sound (fun _ => True) start := ScopeRecord.sound_file _ _
  have hdescends : Scope.Descends last.scopes := descends_ofTree t
  obtain ⟨file, hfile, -, hparent⟩ := file_ofTree t
  have hfile : last.scopes[0]? = some file := hfile
  have hfinishes : ScopeRecord.Finishes start last last := ⟨hdescends, List.prefix_rfl, fun _ _ _ => rfl⟩
  obtain ⟨rs, hrs, hmeanings⟩ := ScopeRecord.meanings_record.meanings_recordAll parts hopen hsound hfinishes
    (Scope.chain_of_root hfile hparent)
  have hlast : last.references.toList = rs := by
    rw [hrs]
    rfl
  have houter : (fun name => last.sitesAlong name [0]) = Outline.inside .file parts fun _ => [] := by
    funext name
    have hsites : last.sitesAt 0 name =
        Outline.sitesOf name (Outline.declared.declaredAll ScopeKind.file.accepts parts) := by
      have hlt : 0 < start.scopes.size := by simp [start, ScopeRecord.openScope]
      rw [ScopeRecord.sitesAt_recordAll parts name hopen hsound hlt,
        show start.sitesAt 0 name = [] from rfl, List.nil_append]
      congr 2
      funext how
      have hhome : start.home [0] how = 0 := by
        cases how <;> rfl
      simp [hhome, ScopeKind.accepts, ScopeKind.isFunctionLike]
    rw [ScopeRecord.sitesAlong, hsites, Outline.inside]
    rfl
  have hmeaning : ∀ r : Reference, (ofTree t).meaning
      { r with binding := Scope.resolve last.scopes r.scope r.name } = last.meaningAt r := by
    intro r
    have hsites := sitesAlong_eq (ScopeRecord.sound_outline t) r.name (Scope.chain last.scopes r.scope)
    rw [hrecord] at hsites
    rw [ScopeRecord.meaningAt, hsites]
    rfl
  rw [Tree.outline, Outline.meanings, ← houter, ← hmeanings, ← hlast]
  simp only [ofTree, ofRecord, hrecord, Array.toList_map, List.map_map]
  exact List.map_congr_left fun r _ => hmeaning r

end ScopeTree

end ScriptTidy
