import ScriptTidy.Proofs.Names.ScopeRecord

/-!
# Renaming bindings

`ScopeTree.rename` gives some bindings new names, lets the references follow the bindings they mean, and makes the
tables of the regions anew from the bindings. A scope tree is coherent when its tables hold what its bindings say and
its references mean what its tables say. Fresh names keep it so (`Coherent.rename`): nothing is declared twice, and no
reference is caught by a binding that it did not mean before.
-/

namespace ScriptTidy

namespace ScopeTree

/-- The tables of the regions hold the bindings that belong to them, and every reference means the binding that its
name has in its region. -/
structure Coherent (t : ScopeTree) : Prop where
  lookup_iff : ∀ {scope : Nat} {name : String} {b : Nat},
    t.scopes[scope]?.bind (·.lookup name) = some b ↔ Declares t.bindings scope name b
  binding_eq : ∀ {k : Nat} {r : Reference}, t.references[k]? = some r → r.binding = t.resolve r.scope r.name

/-- No region has two bindings of one name. -/
theorem Coherent.eq_of_declares {t : ScopeTree} (h : t.Coherent) {scope : Nat} {name : String} {i j : Nat}
    (hi : Declares t.bindings scope name i) (hj : Declares t.bindings scope name j) : i = j :=
  Option.some.inj ((h.lookup_iff.2 hi).symm.trans (h.lookup_iff.2 hj))

theorem coherent_ofTree (t : Tree) : (ofTree t).Coherent := by
  have hsound := ScopeRecord.sound_outline t
  refine ⟨?_, ?_⟩
  · intro scope name b
    constructor
    · intro hb
      obtain ⟨s, hs, hlookup⟩ := Option.bind_eq_some_iff.1 hb
      exact (hsound.lookup_iff hs name b).1 hlookup
    · rintro ⟨bd, hb, rfl, rfl⟩
      have hlt := hsound.scope_lt hb
      have hs := Array.getElem?_eq_getElem hlt
      exact Option.bind_eq_some_iff.2 ⟨_, hs, (hsound.lookup_iff hs _ b).2 ⟨bd, hb, rfl, rfl⟩⟩
  · intro k r hr
    simp only [ofTree, ofRecord, Array.getElem?_map, Option.map_eq_some_iff] at hr
    obtain ⟨r₀, -, rfl⟩ := hr
    rfl

/-! ### Tables made from bindings -/

/-- The table of a region, made from the bindings. -/
def tableOf (bindings : Array Binding) (scope : Nat) : List (String × Nat) :=
  (bindings.toList.zipIdx.filter (·.1.scope = scope)).map fun entry => (entry.1.name, entry.2)

private theorem mem_tableOf {bindings : Array Binding} {scope : Nat} {name : String} {b : Nat} :
    (name, b) ∈ tableOf bindings scope ↔ Declares bindings scope name b := by
  simp only [tableOf, Declares, List.mem_map, List.mem_filter, Prod.exists, List.mem_zipIdx_iff_getElem?, Prod.mk.injEq,
    decide_eq_true_eq, Array.getElem?_toList]
  constructor
  · rintro ⟨bd, _, ⟨hb, hscope⟩, hname, rfl⟩
    exact ⟨bd, hb, hscope, hname⟩
  · rintro ⟨bd, hb, hscope, hname⟩
    exact ⟨bd, b, ⟨hb, hscope⟩, hname, rfl⟩

private theorem lookup_eq_some_iff_mem {entries : List (String × Nat)} {name : String} {b : Nat}
    (h : ∀ i j, (name, i) ∈ entries → (name, j) ∈ entries → i = j) :
    entries.lookup name = some b ↔ (name, b) ∈ entries := by
  induction entries with
  | nil => simp
  | cons entry entries ih =>
    have ih := ih fun i j hi hj => h i j (.tail _ hi) (.tail _ hj)
    obtain ⟨other, c⟩ := entry
    by_cases hname : name = other
    · subst hname
      rw [List.lookup_cons_self]
      constructor
      · rintro ⟨⟩
        exact .head _
      · intro hb
        rw [h b c hb (.head _)]
    · rw [List.lookup_cons, beq_eq_false_iff_ne.2 hname]
      simpa [hname] using ih

/-! ### The renamed tree -/

/-- Give each binding `id` the name `new id`, if there is one. A reference takes the name of the binding it means, and
the tables are made anew. -/
def rename (t : ScopeTree) (new : Nat → Option String) : ScopeTree :=
  let bindings := t.bindings.mapIdx fun id b => { b with name := (new id).getD b.name }
  { t with
    scopes := t.scopes.mapIdx fun id s => { s with names := tableOf bindings id }
    bindings := bindings
    references := t.references.map fun r => { r with name := (r.binding.bind new).getD r.name } }

/-- The new names are different from each other and from all names that are declared or referred to. -/
structure Fresh (t : ScopeTree) (new : Nat → Option String) : Prop where
  injective : ∀ {i j : Nat} {name : String}, new i = some name → new j = some name → i = j
  ne_binding : ∀ {i b : Nat} {name : String} {bd : Binding}, new i = some name → t.bindings[b]? = some bd →
    bd.name ≠ name
  ne_reference : ∀ {i k : Nat} {name : String} {r : Reference}, new i = some name → t.references[k]? = some r →
    r.name ≠ name

section Rename

variable {t : ScopeTree} {new : Nat → Option String}

private theorem getElem?_scopes_rename (id : Nat) : (t.rename new).scopes[id]? =
    t.scopes[id]?.map fun s => { s with names := tableOf (t.rename new).bindings id } := by
  simp [rename]

theorem getElem?_bindings_rename (b : Nat) : (t.rename new).bindings[b]? =
    t.bindings[b]?.map fun bd => { bd with name := (new b).getD bd.name } := by
  simp [rename]

theorem getElem?_references_rename (k : Nat) : (t.rename new).references[k]? =
    t.references[k]?.map fun r => { r with name := (r.binding.bind new).getD r.name } := by
  simp [rename]

private theorem declares_rename {scope : Nat} {name : String} {b : Nat} :
    Declares (t.rename new).bindings scope name b ↔
    ∃ old, Declares t.bindings scope old b ∧ (new b).getD old = name := by
  unfold Declares
  rw [getElem?_bindings_rename]
  constructor
  · rintro ⟨bd', hb', hscope, hname⟩
    obtain ⟨bd, hb, rfl⟩ := Option.map_eq_some_iff.1 hb'
    exact ⟨bd.name, ⟨bd, hb, hscope, rfl⟩, hname⟩
  · rintro ⟨old, ⟨bd, hb, hscope, rfl⟩, hname⟩
    exact ⟨{ bd with name := (new b).getD bd.name }, by rw [hb]; rfl, hscope, hname⟩

/-- The parents of the regions stay, and with them the order in which regions are searched. -/
private theorem chain_rename (id : Nat) : Scope.chain (t.rename new).scopes id = Scope.chain t.scopes id := by
  have hfrom : ∀ fuel id, Scope.chainFrom (t.rename new).scopes fuel id = Scope.chainFrom t.scopes fuel id := by
    intro fuel
    induction fuel with
    | zero => exact fun _ => rfl
    | succ fuel ih =>
      intro id
      unfold Scope.chainFrom
      rw [getElem?_scopes_rename]
      cases t.scopes[id]? with
      | none => rfl
      | some s => simp only [Option.map_some, ih]
  exact hfrom (id + 1) id

private theorem getD_eq_iff {b : Nat} {old name : String} :
    (new b).getD old = name ↔ (new b = none ∧ old = name) ∨ new b = some name := by
  cases new b <;> simp

/-- With fresh names no region gets two bindings of one name. -/
private theorem Coherent.eq_of_declares_rename (h : t.Coherent) (hnew : t.Fresh new) {scope : Nat} {name : String}
    {i j : Nat} (hi : Declares (t.rename new).bindings scope name i)
    (hj : Declares (t.rename new).bindings scope name j) : i = j := by
  obtain ⟨oldi, hoi, hnamei⟩ := declares_rename.1 hi
  obtain ⟨oldj, hoj, hnamej⟩ := declares_rename.1 hj
  -- an old name and a new one are never the same
  rcases getD_eq_iff.1 hnamei with ⟨-, rfl⟩ | hnewi <;> rcases getD_eq_iff.1 hnamej with ⟨-, rfl⟩ | hnewj
  · exact h.eq_of_declares hoi hoj
  · obtain ⟨bd, hb, -, hname⟩ := hoi
    exact absurd hname (hnew.ne_binding hnewj hb)
  · obtain ⟨bd, hb, -, hname⟩ := hoj
    exact absurd hname (hnew.ne_binding hnewi hb)
  · exact hnew.injective hnewi hnewj

private theorem Coherent.lookup_rename (h : t.Coherent) (hnew : t.Fresh new) {scope : Nat} {name : String} {b : Nat} :
    (t.rename new).scopes[scope]?.bind (·.lookup name) = some b ↔ Declares (t.rename new).bindings scope name b := by
  have htable : (tableOf (t.rename new).bindings scope).lookup name = some b ↔
      Declares (t.rename new).bindings scope name b := by
    rw [lookup_eq_some_iff_mem, mem_tableOf]
    intro i j hi hj
    exact h.eq_of_declares_rename hnew (mem_tableOf.1 hi) (mem_tableOf.1 hj)
  rw [← htable, getElem?_scopes_rename]
  cases hs : t.scopes[scope]? with
  | some s => rfl
  | none =>
    -- a binding of a region that does not exist would have been in a table before
    refine ⟨nofun, fun hb => ?_⟩
    obtain ⟨old, hold, -⟩ := declares_rename.1 (htable.1 hb)
    have hlookup := h.lookup_iff.2 hold
    rw [hs] at hlookup
    cases hlookup

/-- A name of before the renaming is found in a region only if it was found there before. -/
private theorem Coherent.lookup_rename_old (h : t.Coherent) (hnew : t.Fresh new) {scope k b : Nat} {r : Reference}
    (hr : t.references[k]? = some r) (hb : (t.rename new).scopes[scope]?.bind (·.lookup r.name) = some b) :
    t.scopes[scope]?.bind (·.lookup r.name) = some b := by
  obtain ⟨old, hold, hname⟩ := declares_rename.1 ((h.lookup_rename hnew).1 hb)
  rcases getD_eq_iff.1 hname with ⟨-, rfl⟩ | hnewb
  · exact h.lookup_iff.2 hold
  · exact absurd rfl (hnew.ne_reference hnewb hr)

/-- A new name is found only in the region of the binding that got it. -/
private theorem Coherent.scope_eq_of_new (h : t.Coherent) (hnew : t.Fresh new) {scope home j b : Nat}
    {name old : String} (hj : new j = some name) (hhome : Declares t.bindings home old j)
    (hb : (t.rename new).scopes[scope]?.bind (·.lookup name) = some b) : scope = home := by
  obtain ⟨oldb, ⟨bd, hbd, hscope, hbname⟩, hname⟩ := declares_rename.1 ((h.lookup_rename hnew).1 hb)
  obtain ⟨bd', hbd', hscope', -⟩ := hhome
  rcases getD_eq_iff.1 hname with ⟨-, rfl⟩ | hnewb
  · exact absurd hbname (hnew.ne_binding hj hbd)
  · obtain rfl := hnew.injective hnewb hj
    obtain rfl : bd = bd' := Option.some.inj (hbd.symm.trans hbd')
    exact hscope.symm.trans hscope'

/-- With fresh names every reference means what it meant. -/
private theorem Coherent.resolve_rename (h : t.Coherent) (hnew : t.Fresh new) {k : Nat} {r : Reference}
    (hr : t.references[k]? = some r) :
    (t.rename new).resolve r.scope ((r.binding.bind new).getD r.name) = r.binding := by
  have hbinding := h.binding_eq hr
  unfold ScopeTree.resolve Scope.resolve at hbinding ⊢
  rw [chain_rename]
  cases hj : r.binding with
  | none =>
    -- a name without a meaning keeps its text, and no binding has taken it
    rw [hj, eq_comm, List.findSome?_eq_none_iff] at hbinding
    rw [List.findSome?_eq_none_iff]
    intro scope hscope
    rw [Option.eq_none_iff_forall_ne_some]
    intro b hb
    have := h.lookup_rename_old hnew hr hb
    rw [hbinding scope hscope] at this
    cases this
  | some j =>
    -- the innermost region that declared the old name is also the innermost that declares the new one
    rw [hj, eq_comm, List.findSome?_eq_some_iff] at hbinding
    obtain ⟨inner, home, outer, hchain, hfound, hinner⟩ := hbinding
    have hdeclares := h.lookup_iff.1 hfound
    rw [List.findSome?_eq_some_iff]
    refine ⟨inner, home, outer, hchain, ?_, ?_⟩
    · exact (h.lookup_rename hnew).2 (declares_rename.2 ⟨r.name, hdeclares, rfl⟩)
    · intro scope hscope
      rw [Option.eq_none_iff_forall_ne_some]
      intro b hb
      have hnone := hinner scope hscope
      cases hnewj : new j with
      | none =>
        simp only [Option.bind_some, hnewj, Option.getD_none] at hb
        rw [h.lookup_rename_old hnew hr hb] at hnone
        cases hnone
      | some name =>
        simp only [Option.bind_some, hnewj, Option.getD_some] at hb
        rw [h.scope_eq_of_new hnew hnewj hdeclares hb, hfound] at hnone
        cases hnone

/-- Fresh names keep a scope tree coherent. -/
theorem Coherent.rename (h : t.Coherent) (hnew : t.Fresh new) : (t.rename new).Coherent := by
  refine ⟨h.lookup_rename hnew, ?_⟩
  intro k r' hr'
  rw [getElem?_references_rename] at hr'
  obtain ⟨r, hr, rfl⟩ := Option.map_eq_some_iff.1 hr'
  exact (h.resolve_rename hnew hr).symm

end Rename

end ScopeTree

end ScriptTidy
