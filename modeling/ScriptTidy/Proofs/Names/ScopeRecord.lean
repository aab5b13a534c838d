import ScriptTidy.Names.ScopeTree
import ScriptTidy.Proofs.Names.Mentions

/-!
# Reading an outline

A record of scopes is changed in four ways only while an outline is read: a name is declared, a name is referred to, a
region is opened, bindings are marked as exported. `Kept` lists what each of the four has to keep, and `Kept.record`
concludes for a whole outline.

The fact to keep is `Sound`: the table of a region holds a name exactly when a binding of that region has it, bindings
carry their numbers, their regions exist, and every site of a binding and every reference goes back to a mention of the
outline. The finished scope tree inherits it (`sound_outline`).
-/

namespace ScriptTidy

/-- Number `b` of the bindings belongs to the region and has the name. -/
def Declares (bindings : Array Binding) (scope : Nat) (name : String) (b : Nat) : Prop :=
  ∃ bd, bindings[b]? = some bd ∧ bd.scope = scope ∧ bd.name = name

namespace Declares

theorem push_iff {bindings : Array Binding} {bd : Binding} {scope : Nat} {name : String} {b : Nat} :
    Declares (bindings.push bd) scope name b ↔
      (b = bindings.size ∧ bd.scope = scope ∧ bd.name = name) ∨ Declares bindings scope name b := by
  unfold Declares
  rw [Array.getElem?_push]
  split
  · rename_i hb
    simp [hb]
  · rename_i hb
    simp [hb]

/-- Bindings may change in place, as long as their regions and names stay. -/
theorem change_iff {bindings bindings' : Array Binding} {change : Nat → Binding → Binding}
    (h : ∀ b, bindings'[b]? = bindings[b]?.map (change b)) (hscope : ∀ b bd, (change b bd).scope = bd.scope)
    (hname : ∀ b bd, (change b bd).name = bd.name) {scope : Nat} {name : String} {b : Nat} :
    Declares bindings' scope name b ↔ Declares bindings scope name b := by
  unfold Declares
  rw [h]
  constructor
  · rintro ⟨bd', hb', hs, hn⟩
    obtain ⟨bd, hb, rfl⟩ := Option.map_eq_some_iff.1 hb'
    exact ⟨bd, hb, (hscope b bd).symm.trans hs, (hname b bd).symm.trans hn⟩
  · rintro ⟨bd, hb, hs, hn⟩
    exact ⟨change b bd, by rw [hb]; rfl, (hscope b bd).trans hs, (hname b bd).trans hn⟩

end Declares

namespace Scope

@[simp] theorem lookup_declared_self (s : Scope) (name : String) (id : Nat) :
    Scope.lookup { s with names := (name, id) :: s.names } name = some id := by
  simp [Scope.lookup]

theorem lookup_declared_of_ne (s : Scope) {name other : String} (id : Nat) (h : other ≠ name) :
    Scope.lookup { s with names := (name, id) :: s.names } other = s.lookup other := by
  simp [Scope.lookup, List.lookup_cons, beq_eq_false_iff_ne.2 h]

end Scope

namespace ScopeRecord

/-- There is an open region, and all open regions exist. -/
structure IsOpen (d : ScopeRecord) (opened : List Nat) : Prop where
  ne_nil : opened ≠ []
  lt_size : ∀ id ∈ opened, id < d.scopes.size

namespace IsOpen

theorem mono {d d' : ScopeRecord} {opened : List Nat} (h : d.IsOpen opened) (hle : d.scopes.size ≤ d'.scopes.size) :
    d'.IsOpen opened :=
  ⟨h.ne_nil, fun id hid => Nat.lt_of_lt_of_le (h.lt_size id hid) hle⟩

private theorem current_mem {opened : List Nat} (h : opened ≠ []) : current opened ∈ opened := by
  cases opened with
  | nil => exact absurd rfl h
  | cons id rest => simp [current]

theorem current_lt {d : ScopeRecord} {opened : List Nat} (h : d.IsOpen opened) : current opened < d.scopes.size :=
  h.lt_size _ (current_mem h.ne_nil)

/-- A declaration belongs to a region that exists. -/
theorem home_lt {d : ScopeRecord} {opened : List Nat} (h : d.IsOpen opened) (kind : BindingKind) :
    d.home opened kind < d.scopes.size := by
  have hcurrent := h.current_lt
  unfold home
  split
  · unfold hoistTarget
    cases hf : opened.find? fun id => d.scopes[id]?.any (·.kind.isFunctionLike) with
    | none => exact Nat.lt_of_le_of_lt (Nat.zero_le _) hcurrent
    | some id => exact h.lt_size id (List.mem_of_find?_eq_some hf)
  · exact hcurrent

/-- A region that is being opened is open, and so are those around it. -/
theorem openScope {d : ScopeRecord} {opened : List Nat} (h : ∀ id ∈ opened, id < d.scopes.size) (kind : ScopeKind)
    (span : Span) : (d.openScope opened kind span).IsOpen (d.scopes.size :: opened) := by
  refine ⟨by simp, ?_⟩
  intro id hid
  simp only [ScopeRecord.openScope, Array.size_push]
  rcases List.mem_cons.1 hid with rfl | hid
  · omega
  · have := h id hid
    omega

end IsOpen

/-! ### Sizes -/

@[simp] theorem size_scopes_declare (d : ScopeRecord) (opened : List Nat) (kind : BindingKind) (name : String)
    (site : Site) : (d.declare opened kind name site).scopes.size = d.scopes.size := by
  unfold declare
  dsimp only
  split <;> simp [addSite, addBinding]

@[simp] theorem size_scopes_refer (d : ScopeRecord) (opened : List Nat) (name : String) (site : Site) :
    (d.refer opened name site).scopes.size = d.scopes.size := rfl

@[simp] theorem size_scopes_markExported (d : ScopeRecord) (first scope : Nat) :
    (d.markExported first scope).scopes.size = d.scopes.size := rfl

/-! ### From one change to a whole outline -/

/-- The four changes keep `I`, where declarations and references are mentions with `P`. -/
structure Kept (P : Mention → Prop) (I : ScopeRecord → Prop) : Prop where
  declare : ∀ d opened kind name site, d.IsOpen opened → P (.declares kind name site) → I d →
    I (d.declare opened kind name site)
  refer : ∀ d opened name site, d.IsOpen opened → P (.refers name site) → I d → I (d.refer opened name site)
  openScope : ∀ d opened kind span, d.IsOpen opened → I d → I (d.openScope opened kind span)
  markExported : ∀ d first scope, I d → I (d.markExported first scope)

/-- What the four changes keep is kept by an outline. Regions are only added on the way. -/
theorem Kept.record {P : Mention → Prop} {I : ScopeRecord → Prop} (k : Kept P I) :
    ∀ (o : Outline) (opened : List Nat) (d : ScopeRecord), (∀ m ∈ o.mentions, P m) → d.IsOpen opened → I d →
      I (o.record opened d) ∧ d.scopes.size ≤ (o.record opened d).scopes.size
  | .declare kind name site, opened, d, hP, hopen, hI => by
    refine ⟨k.declare d opened kind name site hopen (hP _ (by simp [Outline.mentions])) hI, ?_⟩
    simp [Outline.record]
  | .refer name site, opened, d, hP, hopen, hI => by
    refine ⟨k.refer d opened name site hopen (hP _ (by simp [Outline.mentions])) hI, ?_⟩
    simp [Outline.record]
  | .scope kind span parts, opened, d, hP, hopen, hI => by
    -- the parts are read inside the new region, whose number is the number of regions so far
    obtain ⟨hI', hsize⟩ := recordAll parts (d.scopes.size :: opened) (d.openScope opened kind span) hP
      (.openScope hopen.lt_size kind span) (k.openScope d opened kind span hopen hI)
    refine ⟨hI', Nat.le_trans ?_ hsize⟩
    simp [ScopeRecord.openScope]
  | .exported parts, opened, d, hP, hopen, hI => by
    obtain ⟨hI', hsize⟩ := recordAll parts opened d hP hopen hI
    refine ⟨k.markExported _ _ _ hI', ?_⟩
    simpa [Outline.record] using hsize
where
  recordAll : ∀ (os : List Outline) (opened : List Nat) (d : ScopeRecord),
      (∀ m ∈ Outline.mentions.mentionsAll os, P m) → d.IsOpen opened → I d →
      I (Outline.record.recordAll opened os d) ∧ d.scopes.size ≤ (Outline.record.recordAll opened os d).scopes.size
    | [], opened, d, _, _, hI => ⟨hI, Nat.le_refl _⟩
    | o :: os, opened, d, hP, hopen, hI => by
      -- what was open before the first part exists behind it too
      obtain ⟨hI₁, hsize₁⟩ := Kept.record k o opened d
        (fun m hm => hP m (List.mem_append_left _ hm)) hopen hI
      obtain ⟨hI₂, hsize₂⟩ := recordAll os opened (o.record opened d)
        (fun m hm => hP m (List.mem_append_right _ hm)) (hopen.mono hsize₁) hI₁
      exact ⟨hI₂, Nat.le_trans hsize₁ hsize₂⟩

/-! ### Tables of names agree with bindings -/

/-- The tables of the regions, the bindings and the references fit together, and go back to mentions with `P`. -/
structure Sound (P : Mention → Prop) (d : ScopeRecord) : Prop where
  /-- The table of a region holds the names of the bindings that belong to it. -/
  lookup_iff : ∀ {id : Nat} {s : Scope}, d.scopes[id]? = some s → ∀ (name : String) (b : Nat),
    s.lookup name = some b ↔ Declares d.bindings id name b
  /-- A binding carries its number. -/
  id_eq : ∀ {b : Nat} {bd : Binding}, d.bindings[b]? = some bd → bd.id = b
  /-- The region of a binding exists. -/
  scope_lt : ∀ {b : Nat} {bd : Binding}, d.bindings[b]? = some bd → bd.scope < d.scopes.size
  /-- A binding is declared somewhere. -/
  sites_ne_nil : ∀ {b : Nat} {bd : Binding}, d.bindings[b]? = some bd → bd.sites ≠ []
  /-- Where a binding is declared, its name was mentioned. -/
  sites_mentioned : ∀ {b : Nat} {bd : Binding}, d.bindings[b]? = some bd →
    ∀ site ∈ bd.sites, ∃ kind, P (.declares kind bd.name site)
  /-- A reference was mentioned. -/
  references_mentioned : ∀ {k : Nat} {r : Reference}, d.references[k]? = some r → P (.refers r.name r.site)

namespace Sound

variable {P : Mention → Prop} {d : ScopeRecord}

/-- Bindings may change in place, as long as their names and regions stay and new sites are mentioned. -/
private theorem changeBindings (h : Sound P d) {d' : ScopeRecord} (change : Nat → Binding → Binding)
    (hscopes : d'.scopes = d.scopes) (hreferences : d'.references = d.references)
    (hbindings : ∀ b, d'.bindings[b]? = d.bindings[b]?.map (change b))
    (hid : ∀ b bd, (change b bd).id = bd.id) (hname : ∀ b bd, (change b bd).name = bd.name)
    (hscope : ∀ b bd, (change b bd).scope = bd.scope)
    (hsites : ∀ b bd, d.bindings[b]? = some bd → bd.sites <+: (change b bd).sites ∧
      ∀ site ∈ (change b bd).sites, site ∈ bd.sites ∨ ∃ kind, P (.declares kind bd.name site)) : Sound P d' := by
  refine ⟨?_, ?_, ?_, ?_, ?_, hreferences ▸ h.references_mentioned⟩
  · intro id s hs name b
    rw [h.lookup_iff (hscopes ▸ hs), Declares.change_iff hbindings hscope hname]
  · intro b bd' hb'
    rw [hbindings] at hb'
    obtain ⟨bd, hb, rfl⟩ := Option.map_eq_some_iff.1 hb'
    rw [hid]
    exact h.id_eq hb
  · intro b bd' hb'
    rw [hbindings] at hb'
    obtain ⟨bd, hb, rfl⟩ := Option.map_eq_some_iff.1 hb'
    rw [hscope, hscopes]
    exact h.scope_lt hb
  · intro b bd' hb' hnil
    rw [hbindings] at hb'
    obtain ⟨bd, hb, rfl⟩ := Option.map_eq_some_iff.1 hb'
    have := (hsites b bd hb).1
    rw [hnil, List.prefix_nil] at this
    exact h.sites_ne_nil hb this
  · intro b bd' hb' site hsite
    rw [hbindings] at hb'
    obtain ⟨bd, hb, rfl⟩ := Option.map_eq_some_iff.1 hb'
    rw [hname]
    rcases (hsites b bd hb).2 site hsite with hsite | hsite
    · exact h.sites_mentioned hb site hsite
    · exact hsite

private theorem addSite (h : Sound P d) {id : Nat} {bd : Binding} (hid : d.bindings[id]? = some bd)
    {kind : BindingKind} {site : Site} (hP : P (.declares kind bd.name site)) : Sound P (d.addSite id site) := by
  refine h.changeBindings (fun b bd => if id = b then { bd with sites := bd.sites ++ [site] } else bd)
    rfl rfl ?_ ?_ ?_ ?_ ?_
  · intro b
    simp only [ScopeRecord.addSite, Array.getElem?_modify]
    split <;> simp
  · intro b bd'
    split <;> rfl
  · intro b bd'
    split <;> rfl
  · intro b bd'
    split <;> rfl
  · intro b bd' hb
    split
    · rename_i hidb
      subst hidb
      obtain rfl : bd = bd' := Option.some.inj (hid.symm.trans hb)
      refine ⟨List.prefix_append _ _, ?_⟩
      intro site' hsite'
      rcases List.mem_append.1 hsite' with hsite' | hsite'
      · exact .inl hsite'
      · obtain rfl := List.mem_singleton.1 hsite'
        exact .inr ⟨kind, hP⟩
    · exact ⟨List.prefix_rfl, fun site' hsite' => .inl hsite'⟩

private theorem markExported (h : Sound P d) (first scope : Nat) : Sound P (d.markExported first scope) := by
  refine h.changeBindings _ rfl rfl (fun b => Array.getElem?_mapIdx) ?_ ?_ ?_ ?_
  · intro b bd
    split <;> rfl
  · intro b bd
    split <;> rfl
  · intro b bd
    split <;> rfl
  · intro b bd _
    split
    · exact ⟨List.prefix_rfl, fun site hsite => .inl hsite⟩
    · exact ⟨List.prefix_rfl, fun site hsite => .inl hsite⟩

private theorem addBinding (h : Sound P d) {scope : Nat} (hscope : scope < d.scopes.size) {name : String}
    (hfree : d.scopes[scope]?.bind (·.lookup name) = none) {kind : BindingKind} {site : Site}
    (hP : P (.declares kind name site)) : Sound P (d.addBinding scope kind name site) := by
  have hcases : ∀ {b : Nat} {bd : Binding}, (d.addBinding scope kind name site).bindings[b]? = some bd →
      (b = d.bindings.size ∧ bd = ⟨b, name, kind, scope, [site], false⟩) ∨ d.bindings[b]? = some bd := by
    intro b bd hb
    simp only [ScopeRecord.addBinding, Array.getElem?_push] at hb
    split at hb
    · rename_i hsize
      exact .inl ⟨hsize, hsize ▸ (Option.some.inj hb).symm⟩
    · exact .inr hb
  refine ⟨?_, ?_, ?_, ?_, ?_, h.references_mentioned⟩
  · intro id s hs other b
    simp only [ScopeRecord.addBinding, Array.getElem?_modify] at hs ⊢
    rw [Declares.push_iff]
    split at hs
    · -- the table of the region gets one more name, which it did not have
      rename_i hid
      subst hid
      obtain ⟨s₀, hs₀, rfl⟩ := Option.map_eq_some_iff.1 hs
      by_cases hother : name = other
      · subst hother
        have hnone : ¬ Declares d.bindings scope name b := by
          intro hb
          have hlookup := (h.lookup_iff hs₀ name b).2 hb
          simp [hs₀, hlookup] at hfree
        simp [hnone, eq_comm]
      · rw [Scope.lookup_declared_of_ne s₀ _ (Ne.symm hother), h.lookup_iff hs₀]
        simp [hother]
    · rename_i hid
      rw [h.lookup_iff hs]
      simp [hid]
  · intro b bd hb
    rcases hcases hb with ⟨-, rfl⟩ | hb
    · rfl
    · exact h.id_eq hb
  · intro b bd hb
    have hsize : (d.addBinding scope kind name site).scopes.size = d.scopes.size := by
      simp [ScopeRecord.addBinding]
    rw [hsize]
    rcases hcases hb with ⟨-, rfl⟩ | hb
    · exact hscope
    · exact h.scope_lt hb
  · intro b bd hb
    rcases hcases hb with ⟨-, rfl⟩ | hb
    · simp
    · exact h.sites_ne_nil hb
  · intro b bd hb site' hsite'
    rcases hcases hb with ⟨-, rfl⟩ | hb
    · obtain rfl : site' = site := by simpa using hsite'
      exact ⟨kind, hP⟩
    · exact h.sites_mentioned hb site' hsite'

private theorem declare (h : Sound P d) {opened : List Nat} (hopen : d.IsOpen opened) {kind : BindingKind}
    {name : String} {site : Site} (hP : P (.declares kind name site)) :
    Sound P (d.declare opened kind name site) := by
  have hhome := hopen.home_lt kind
  unfold ScopeRecord.declare
  dsimp only
  split
  · -- by the table the number found is that of a binding with this name
    rename_i id hid
    obtain ⟨s, hs, hlookup⟩ := Option.bind_eq_some_iff.1 hid
    obtain ⟨bd, hb, -, rfl⟩ := (h.lookup_iff hs name id).1 hlookup
    exact h.addSite hb hP
  · rename_i hfree
    exact h.addBinding hhome hfree hP

private theorem refer (h : Sound P d) {opened : List Nat} {name : String} {site : Site}
    (hP : P (.refers name site)) : Sound P (d.refer opened name site) := by
  refine ⟨h.lookup_iff, h.id_eq, h.scope_lt, h.sites_ne_nil, h.sites_mentioned, ?_⟩
  intro k r hr
  simp only [ScopeRecord.refer, Array.getElem?_push] at hr
  split at hr
  · obtain rfl := Option.some.inj hr
    exact hP
  · exact h.references_mentioned hr

/-- The table of a region that was just opened is empty, and no binding belongs to it yet. -/
private theorem openScope (h : Sound P d) (opened : List Nat) (kind : ScopeKind) (span : Span) :
    Sound P (d.openScope opened kind span) := by
  refine ⟨?_, h.id_eq, ?_, h.sites_ne_nil, h.sites_mentioned, h.references_mentioned⟩
  · intro id s hs name b
    simp only [ScopeRecord.openScope, Array.getElem?_push] at hs
    split at hs
    · rename_i hid
      obtain rfl := Option.some.inj hs
      constructor
      · intro hlookup
        cases hlookup
      · rintro ⟨bd, hb, hscope, -⟩
        have hlt := h.scope_lt hb
        omega
    · exact h.lookup_iff hs name b
  · intro b bd hb
    have hlt := h.scope_lt hb
    simp only [ScopeRecord.openScope, Array.size_push]
    omega

/-- All that happens while an outline is read keeps the record sound. -/
theorem kept (P : Mention → Prop) : Kept P (Sound P) where
  declare _ _ _ _ _ hopen hP h := h.declare hopen hP
  refer _ _ _ _ _ hP h := h.refer hP
  openScope _ opened kind span _ h := h.openScope opened kind span
  markExported _ first scope h := h.markExported first scope

end Sound

/-- The region of the file is the first to be opened, when there are no bindings and no references. -/
theorem sound_file (P : Mention → Prop) (span : Span) : Sound P (empty.openScope [] .file span) := by
  refine ⟨?_, ?_, ?_, ?_, ?_, ?_⟩
  · intro id s hs name b
    simp only [ScopeRecord.openScope, empty, Array.getElem?_push, Array.getElem?_empty] at hs ⊢
    split at hs
    · obtain rfl := Option.some.inj hs
      simp [Scope.lookup, Declares]
    · cases hs
  all_goals
    intro _ _ h
    simp [ScopeRecord.openScope, empty] at h

/-- The record of a tree is sound. -/
theorem sound_outline (t : Tree) : Sound (· ∈ t.outline.mentions) (t.outline.record [] .empty) := by
  have hopen : (empty.openScope [] .file t.root.fullSpan).IsOpen [0] := .openScope (by simp) .file t.root.fullSpan
  exact (Kept.record.recordAll (Sound.kept _) _ [0] _ (fun _ hm => hm) hopen (sound_file _ _)).1

end ScopeRecord

end ScriptTidy
