import ScriptTidy.Proofs.Names.ScopeRecord

/-!
# Scope trees are consistent

While an outline is read, a region gets its number, kind, parent and span once and for all; only its table of names
grows. `Frame` is a region without that table, and `frames` lists the frames of a record: a declaration or a reference
keeps them, and opening a region adds one at the end.

`Scope.Means` says what a name means in a region without counting steps: the binding of the first region, going
outwards, that declares it. `Scope.resolve` computes it (`means_resolve`), because parents have smaller numbers. With
the list of uses (`referencesTo_ofRecord`), all that a scope tree promises comes together in `consistent_ofTree`.
-/

namespace ScriptTidy

/-- A region without its table of names. -/
structure Frame where
  kind : ScopeKind
  parent : Option Nat
  span : Span
  deriving DecidableEq, Repr

def Scope.frame (s : Scope) : Frame := ⟨s.kind, s.parent, s.span⟩

/-! ### Frames of a record -/

namespace ScopeRecord

/-- The frames of the regions, by their numbers. -/
def frames (d : ScopeRecord) : List Frame := d.scopes.toList.map Scope.frame

@[simp] theorem length_frames (d : ScopeRecord) : d.frames.length = d.scopes.size := by simp [frames]

theorem getElem?_frames (d : ScopeRecord) (id : Nat) : d.frames[id]? = d.scopes[id]?.map Scope.frame := by
  simp [frames]

/-- A change of a table keeps the frames. -/
private theorem map_frame_modify (scopes : Array Scope) (id : Nat) (names : Scope → List (String × Nat)) :
    (scopes.modify id fun s => { s with names := names s }).toList.map Scope.frame = scopes.toList.map Scope.frame := by
  apply List.ext_getElem?
  intro k
  simp only [List.getElem?_map, Array.getElem?_toList, Array.getElem?_modify]
  split
  · cases scopes[k]? <;> rfl
  · rfl

@[simp] theorem frames_declare (d : ScopeRecord) (opened : List Nat) (kind : BindingKind) (name : String)
    (site : Site) : (d.declare opened kind name site).frames = d.frames := by
  unfold declare
  dsimp only
  split
  · rfl
  · exact map_frame_modify _ _ _

@[simp] theorem frames_refer (d : ScopeRecord) (opened : List Nat) (name : String) (site : Site) :
    (d.refer opened name site).frames = d.frames := rfl

@[simp] theorem frames_markExported (d : ScopeRecord) (first scope : Nat) :
    (d.markExported first scope).frames = d.frames := rfl

@[simp] theorem frames_openScope (d : ScopeRecord) (opened : List Nat) (kind : ScopeKind) (span : Span) :
    (d.openScope opened kind span).frames = d.frames ++ [⟨kind, opened.head?, span⟩] := by
  simp [frames, openScope, Scope.frame]

/-! ### Regions lie inside regions with smaller numbers -/

/-- Region zero is the file, every other region lies inside one with a smaller number, and references stand in regions
that exist. -/
structure Rooted (d : ScopeRecord) : Prop where
  file : ∃ f, d.frames[0]? = some f ∧ f.kind = .file ∧ f.parent = none
  parent_lt : ∀ {id : Nat} {f : Frame}, d.frames[id]? = some f → 0 < id → ∃ p, f.parent = some p ∧ p < id
  reference_lt : ∀ {k : Nat} {r : Reference}, d.references[k]? = some r → r.scope < d.frames.length

namespace Rooted

variable {d : ScopeRecord}

/-- Only frames and references matter. -/
private theorem of_eq (h : Rooted d) {d' : ScopeRecord} (hframes : d'.frames = d.frames)
    (hreferences : d'.references = d.references) : Rooted d' :=
  ⟨hframes ▸ h.file, hframes ▸ h.parent_lt, hframes ▸ hreferences ▸ h.reference_lt⟩

private theorem refer (h : Rooted d) {opened : List Nat} (hopen : d.IsOpen opened) (name : String) (site : Site) :
    Rooted (d.refer opened name site) := by
  refine ⟨h.file, h.parent_lt, ?_⟩
  intro k r hr
  simp only [ScopeRecord.refer, Array.getElem?_push] at hr
  split at hr
  · obtain rfl := Option.some.inj hr
    rw [length_frames]
    exact hopen.current_lt
  · exact h.reference_lt hr

private theorem openScope (h : Rooted d) {opened : List Nat} (hopen : d.IsOpen opened) (kind : ScopeKind)
    (span : Span) : Rooted (d.openScope opened kind span) := by
  have hpos : 0 < d.frames.length := by
    obtain ⟨f, hf, -⟩ := h.file
    exact (List.getElem?_eq_some_iff.1 hf).1
  refine ⟨?_, ?_, ?_⟩
  · rw [frames_openScope, List.getElem?_append_left hpos]
    exact h.file
  · intro id f hf hid
    rw [frames_openScope, List.getElem?_append] at hf
    split at hf
    · exact h.parent_lt hf hid
    · -- the new region lies inside the innermost open one
      rename_i hlen
      obtain ⟨p, rest, rfl⟩ := List.exists_cons_of_ne_nil hopen.ne_nil
      rw [List.getElem?_singleton] at hf
      split at hf
      · obtain rfl := Option.some.inj hf
        have hp := hopen.lt_size p (by simp)
        rw [length_frames] at hlen
        exact ⟨p, rfl, by omega⟩
      · cases hf
  · intro k r hr
    have hlt := h.reference_lt hr
    rw [frames_openScope, List.length_append]
    omega

/-- All that happens while an outline is read keeps the regions in order. -/
theorem kept : Kept (fun _ => True) Rooted where
  declare d opened kind name site _ _ h := h.of_eq (frames_declare d opened kind name site) (by
    unfold ScopeRecord.declare
    dsimp only
    split <;> rfl)
  refer _ _ name site hopen _ h := h.refer hopen name site
  openScope _ _ kind span hopen h := h.openScope hopen kind span
  markExported _ first scope h := h.of_eq (frames_markExported _ first scope) rfl

end Rooted

theorem rooted_file (span : Span) : Rooted (empty.openScope [] .file span) := by
  refine ⟨⟨⟨.file, none, span⟩, rfl, rfl, rfl⟩, ?_, ?_⟩
  · intro id f hf hid
    have hlt := (List.getElem?_eq_some_iff.1 hf).1
    simp [frames, ScopeRecord.openScope, empty] at hlt
    omega
  · intro k r hr
    simp [ScopeRecord.openScope, empty] at hr

private theorem rooted_outline (t : Tree) : Rooted (t.outline.record [] .empty) := by
  have hopen : (empty.openScope [] .file t.root.fullSpan).IsOpen [0] := .openScope (by simp) .file t.root.fullSpan
  exact (Kept.record.recordAll Rooted.kept _ [0] _ (fun _ _ => trivial) hopen (rooted_file _)).1

end ScopeRecord

/-! ### What a name means -/

namespace Scope

/-- What `name` means in region `id`: the binding of the first region, going outwards, that declares it, or nothing if
there is no such region. -/
inductive Means (scopes : Array Scope) (name : String) : Nat → Option Nat → Prop
  | here {id b : Nat} {s : Scope} : scopes[id]? = some s → s.lookup name = some b → Means scopes name id (some b)
  | outwards {id parent : Nat} {s : Scope} {meaning : Option Nat} : scopes[id]? = some s → s.lookup name = none →
    s.parent = some parent → Means scopes name parent meaning → Means scopes name id meaning
  | nowhere {id : Nat} {s : Scope} : scopes[id]? = some s → s.lookup name = none → s.parent = none →
    Means scopes name id none

/-- Parents have smaller numbers. -/
def Descends (scopes : Array Scope) : Prop :=
  ∀ {id : Nat} {s : Scope} {parent : Nat}, scopes[id]? = some s → s.parent = some parent → parent < id

variable {scopes : Array Scope}

/-- Fuel beyond the number of the region changes nothing. -/
private theorem chainFrom_eq (h : Descends scopes) : ∀ {fuel fuel' id : Nat}, id < fuel → id < fuel' →
    chainFrom scopes fuel id = chainFrom scopes fuel' id := by
  intro fuel
  induction fuel with
  | zero => intro _ _ hid; omega
  | succ fuel ih =>
    intro fuel' id hid hid'
    obtain ⟨fuel', rfl⟩ : ∃ k, fuel' = k + 1 := ⟨fuel' - 1, by omega⟩
    unfold chainFrom
    cases hs : scopes[id]? with
    | none => rfl
    | some s =>
      cases hp : s.parent with
      | none => simp only [hp]
      | some parent =>
        have hlt := h hs hp
        have hrest : chainFrom scopes fuel parent = chainFrom scopes fuel' parent := ih (by omega) (by omega)
        simp only [hp, hrest]

theorem chain_of_root {id : Nat} {s : Scope} (hs : scopes[id]? = some s) (hp : s.parent = none) :
    chain scopes id = [id] := by
  simp [chain, chainFrom, hs, hp]

theorem chain_of_parent (h : Descends scopes) {id parent : Nat} {s : Scope} (hs : scopes[id]? = some s)
    (hp : s.parent = some parent) : chain scopes id = id :: chain scopes parent := by
  have hlt := h hs hp
  have hfuel : chainFrom scopes id parent = chain scopes parent := chainFrom_eq h hlt (Nat.lt_succ_self parent)
  rw [← hfuel, chain, chainFrom]
  simp [hs, hp]

/-- What `resolve` finds is what the name means. -/
theorem means_resolve (h : Descends scopes) (name : String) : ∀ {id : Nat}, id < scopes.size →
    Means scopes name id (resolve scopes id name) := by
  intro id
  induction id using Nat.strongRecOn with
  | ind id ih =>
    intro hid
    have hs := Array.getElem?_eq_getElem hid
    cases hl : scopes[id].lookup name with
    | some b =>
      have hfound : resolve scopes id name = some b := by
        cases hp : scopes[id].parent with
        | none => simp [resolve, chain_of_root hs hp, hs, hl]
        | some parent => simp [resolve, chain_of_parent h hs hp, hs, hl]
      rw [hfound]
      exact .here hs hl
    | none =>
      cases hp : scopes[id].parent with
      | none =>
        have hnone : resolve scopes id name = none := by simp [resolve, chain_of_root hs hp, hs, hl]
        rw [hnone]
        exact .nowhere hs hl hp
      | some parent =>
        have hlt := h hs hp
        have hnext : resolve scopes id name = resolve scopes parent name := by
          simp [resolve, chain_of_parent h hs hp, hs, hl]
        rw [hnext]
        exact .outwards hs hl hp (ih parent hlt (by omega))

end Scope

theorem ScopeRecord.Rooted.descends {d : ScopeRecord} (h : d.Rooted) : Scope.Descends d.scopes := by
  intro id s parent hs hp
  have hframe : d.frames[id]? = some s.frame := by
    rw [getElem?_frames, hs]
    rfl
  rcases Nat.eq_zero_or_pos id with rfl | hid
  · obtain ⟨f, hf, -, hnone⟩ := h.file
    obtain rfl := Option.some.inj (hframe.symm.trans hf)
    cases hp.symm.trans hnone
  · obtain ⟨p, hp', hlt⟩ := h.parent_lt hframe hid
    obtain rfl := Option.some.inj (hp.symm.trans hp')
    exact hlt

/-! ### References by their bindings -/

namespace ScopeTree

/-- The numbers of the references that mean `id`, when the first of them has number `next`. -/
def usesFrom (id : Nat) : Nat → List Reference → List Nat
  | _, [] => []
  | next, r :: rs => if r.binding = some id then next :: usesFrom id (next + 1) rs else usesFrom id (next + 1) rs

/-- One pass over the references puts the number of each in front of the list of the binding it means. -/
private theorem foldl_collect (id : Nat) (references : List Reference) : ∀ (uses : Array (List Nat)) (next : Nat),
    (references.foldl (fun (uses : Array (List Nat) × Nat) r =>
      match r.binding with
      | some id => (uses.1.modify id (uses.2 :: ·), uses.2 + 1)
      | none => (uses.1, uses.2 + 1)) (uses, next)).1[id]? =
    uses[id]?.map ((usesFrom id next references).reverse ++ ·) := by
  induction references with
  | nil =>
    intro uses next
    simp [usesFrom]
  | cons r rs ih =>
    intro uses next
    rw [List.foldl_cons]
    cases hb : r.binding with
    | none => simp only [ih, usesFrom, hb, reduceCtorEq, if_false]
    | some b =>
      simp only [ih, usesFrom, hb, Option.some.injEq, Array.getElem?_modify]
      split
      · cases uses[id]? <;> simp
      · rfl

private theorem getElem?_collectUses {id count : Nat} (h : id < count) (references : List Reference) :
    (collectUses count references)[id]? = some (usesFrom id 0 references) := by
  have hfold := foldl_collect id references (Array.replicate count []) 0
  rw [collectUses, Array.getElem?_map]
  exact (congrArg (Option.map List.reverse) hfold).trans (by simp [h])

/-- Looking the numbers up gives the references, in their order. -/
private theorem filterMap_usesFrom (id : Nat) (front references : List Reference) :
    (usesFrom id front.length references).filterMap ((front ++ references)[·]?) =
      references.filter (·.binding = some id) := by
  induction references generalizing front with
  | nil => rfl
  | cons r rs ih =>
    have hrest := ih (front ++ [r])
    simp only [List.length_append, List.length_singleton, List.append_assoc, List.singleton_append] at hrest
    unfold usesFrom
    split
    · rename_i hb
      simp [hb, hrest]
    · rename_i hb
      simp [hb, hrest]

/-- The uses of a binding are the references that mean it. -/
theorem referencesTo_ofRecord (d : ScopeRecord) {id : Nat} (h : id < d.bindings.size) :
    (ofRecord d).referencesTo id = (ofRecord d).references.toList.filter (·.binding = some id) := by
  have huses : (ofRecord d).uses[id]? = some (usesFrom id 0 (ofRecord d).references.toList) :=
    getElem?_collectUses h _
  have hlist := filterMap_usesFrom id [] (ofRecord d).references.toList
  simp only [List.nil_append, List.length_nil, Array.getElem?_toList] at hlist
  rw [referencesTo, huses, Option.getD_some, hlist]

/-! ### The whole scope tree -/

/-- The first region is the file. -/
theorem file_ofTree (t : Tree) : ∃ s, (ofTree t).scopes[0]? = some s ∧ s.kind = .file ∧ s.parent = none := by
  obtain ⟨f, hf, hkind, hp⟩ := (ScopeRecord.rooted_outline t).file
  rw [ScopeRecord.getElem?_frames] at hf
  obtain ⟨s, hs, rfl⟩ := Option.map_eq_some_iff.1 hf
  exact ⟨s, hs, hkind, hp⟩

/-- The numbers that bindings carry are their places. -/
theorem id_ofTree {t : Tree} {id : Nat} {b : Binding} (hb : (ofTree t).bindings[id]? = some b) : b.id = id :=
  (ScopeRecord.sound_outline t).id_eq hb

theorem map_id_bindings (t : Tree) : (ofTree t).bindings.toList.map (·.id) = List.range (ofTree t).bindings.size := by
  refine List.ext_getElem (by simp) fun i hi _ => ?_
  rw [List.getElem_map, List.getElem_range, Array.getElem_toList]
  exact id_ofTree (Array.getElem?_eq_getElem _)

theorem descends_ofTree (t : Tree) : Scope.Descends (ofTree t).scopes := (ScopeRecord.rooted_outline t).descends

/-- A reference stands in a region and means there what its name means. -/
theorem reference_ofTree {t : Tree} {k : Nat} {r : Reference} (hr : (ofTree t).references[k]? = some r) :
    r.scope < (ofTree t).scopes.size ∧ r.binding = (ofTree t).resolve r.scope r.name ∧
      Scope.Means (ofTree t).scopes r.name r.scope r.binding := by
  simp only [ofTree, ofRecord, Array.getElem?_map, Option.map_eq_some_iff] at hr
  obtain ⟨r₀, hr₀, rfl⟩ := hr
  have hlt : r₀.scope < (ofTree t).scopes.size := by
    have := (ScopeRecord.rooted_outline t).reference_lt hr₀
    rwa [ScopeRecord.length_frames] at this
  exact ⟨hlt, rfl, Scope.means_resolve (descends_ofTree t) r₀.name hlt⟩

theorem referencesTo_ofTree {t : Tree} {id : Nat} (hid : id < (ofTree t).bindings.size) :
    (ofTree t).referencesTo id = (ofTree t).references.toList.filter (·.binding = some id) :=
  referencesTo_ofRecord _ hid

/-- What holds of the regions, bindings and references of a scope tree. The number of a binding is its place in the list
of bindings, that of a region its place in the list of regions. -/
structure Consistent (t : ScopeTree) : Prop where
  /-- The first region is the file, and lies inside no other. -/
  file : ∃ s, t.scopes[0]? = some s ∧ s.kind = .file ∧ s.parent = none
  /-- Every other region lies inside one with a smaller number. -/
  parent_lt : ∀ {id : Nat} {s : Scope}, t.scopes[id]? = some s → 0 < id → ∃ p, s.parent = some p ∧ p < id
  /-- A binding carries its number, belongs to a region that exists, and is declared somewhere. -/
  binding : ∀ {id : Nat} {b : Binding}, t.bindings[id]? = some b →
    b.id = id ∧ b.scope < t.scopes.size ∧ b.sites ≠ []
  /-- The table of a region holds a name exactly for the binding that lives there under it. -/
  lookup_iff : ∀ {scope : Nat} {s : Scope}, t.scopes[scope]? = some s → ∀ (name : String) (id : Nat),
    s.lookup name = some id ↔ Declares t.bindings scope name id
  /-- No region has two bindings of one name. -/
  unique : ∀ {scope : Nat} {name : String} {i j : Nat}, Declares t.bindings scope name i →
    Declares t.bindings scope name j → i = j
  /-- A reference stands in a region that exists. It has the binding that its name is resolved to, which is that of the
  nearest region that declares the name. -/
  reference : ∀ {k : Nat} {r : Reference}, t.references[k]? = some r →
    r.scope < t.scopes.size ∧ r.binding = t.resolve r.scope r.name ∧ Scope.Means t.scopes r.name r.scope r.binding
  /-- The references to a binding are those that have it, each once and in their order. -/
  referencesTo_eq : ∀ {id : Nat}, id < t.bindings.size →
    t.referencesTo id = t.references.toList.filter (·.binding = some id)

theorem consistent_ofTree (t : Tree) : (ofTree t).Consistent := by
  have hsound := ScopeRecord.sound_outline t
  refine ⟨file_ofTree t, ?_, fun hb => ⟨hsound.id_eq hb, hsound.scope_lt hb, hsound.sites_ne_nil hb⟩, hsound.lookup_iff,
    ?_, reference_ofTree, referencesTo_ofTree⟩
  · intro id s hs hid
    have hframe : (t.outline.record [] .empty).frames[id]? = some s.frame := by
      rw [ScopeRecord.getElem?_frames]
      exact congrArg _ hs
    exact (ScopeRecord.rooted_outline t).parent_lt hframe hid
  · rintro scope name i j ⟨b, hb, rfl, rfl⟩ hj
    have hs := Array.getElem?_eq_getElem (hsound.scope_lt hb)
    have hi := (hsound.lookup_iff hs b.name i).2 ⟨b, hb, rfl, rfl⟩
    exact Option.some.inj (hi.symm.trans ((hsound.lookup_iff hs b.name j).2 hj))

end ScopeTree

end ScriptTidy
