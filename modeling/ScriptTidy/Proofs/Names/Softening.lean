import ScriptTidy.Proofs.Names.Regions

/-!
# Softer declarations

A declaration by `var` belongs to the function around it, one by `let` to the region it stands in. `Outline.Softens`
relates an outline to one in which some declarations by `var` are declarations by `let`. Where these stand directly in a
function or the file, the two regions are the same. Then reading the two outlines gives records that differ in nothing
but the kinds of the bindings (`Softens.recordAll`), and so do the scope trees made from them (`softened_ofTree`).
-/

namespace ScriptTidy

/-- In a region of the kind given, some declarations by `var` become declarations by `let`. They stand directly in
regions of a kind that is free for this, at places for which `soft` holds. -/
inductive Outline.Softens (free : ScopeKind → Bool) (soft : Span → Prop) :
    ScopeKind → List Outline → List Outline → Prop
  | nil {kind : ScopeKind} : Softens free soft kind [] []
  | declare {kind : ScopeKind} {os os' : List Outline} (how : BindingKind) (name : String) (site : Site) :
    Softens free soft kind os os' →
    Softens free soft kind (.declare how name site :: os) (.declare how name site :: os')
  | soften {kind : ScopeKind} {os os' : List Outline} (name : String) (site : Site) : free kind = true →
    soft site.span → Softens free soft kind os os' →
    Softens free soft kind (.declare .varName name site :: os) (.declare .letName name site :: os')
  | refer {kind : ScopeKind} {os os' : List Outline} (name : String) (site : Site) : Softens free soft kind os os' →
    Softens free soft kind (.refer name site :: os) (.refer name site :: os')
  | scope {kind : ScopeKind} {os os' parts parts' : List Outline} (inner : ScopeKind) (span : Span) :
    Softens free soft inner parts parts' → Softens free soft kind os os' →
    Softens free soft kind (.scope inner span parts :: os) (.scope inner span parts' :: os')
  | exported {kind : ScopeKind} {os os' parts parts' : List Outline} : Softens free soft kind parts parts' →
    Softens free soft kind os os' → Softens free soft kind (.exported parts :: os) (.exported parts' :: os')

namespace Outline.Softens

variable {free : ScopeKind → Bool} {soft : Span → Prop} {kind : ScopeKind}

theorem refl (kind : ScopeKind) : ∀ os : List Outline, Softens free soft kind os os
  | [] => .nil
  | .declare how name site :: os => .declare how name site (refl kind os)
  | .refer name site :: os => .refer name site (refl kind os)
  | .scope inner span parts :: os => .scope inner span (refl inner parts) (refl kind os)
  | .exported parts :: os => .exported (refl kind parts) (refl kind os)

theorem append {os os' ps ps' : List Outline} (ho : Softens free soft kind os os')
    (hp : Softens free soft kind ps ps') : Softens free soft kind (os ++ ps) (os' ++ ps') := by
  induction ho with
  | nil => exact hp
  | declare how name site _ ih => exact .declare how name site (ih hp)
  | soften name site hfree hsoft _ ih => exact .soften name site hfree hsoft (ih hp)
  | refer name site _ ih => exact .refer name site (ih hp)
  | scope inner span hparts _ _ ih => exact .scope inner span hparts (ih hp)
  | exported hparts _ _ ih => exact .exported hparts (ih hp)

theorem flatMap {xs : List Node} {f f' : Node → List Outline}
    (h : ∀ x ∈ xs, Softens free soft kind (f x) (f' x)) :
    Softens free soft kind (xs.flatMap f) (xs.flatMap f') := by
  induction xs with
  | nil => exact .nil
  | cons x xs ih =>
    rw [List.flatMap_cons, List.flatMap_cons]
    exact (h x (by simp)).append (ih fun y hy => h y (by simp [hy]))

theorem stamp {os os' : List Outline} (h : Softens free soft kind os os') (r : Reading) :
    Softens free soft kind (r.stamp os) (r.stamp os') := by
  unfold Reading.stamp
  split
  · exact .exported h .nil
  · exact h

end Outline.Softens

/-- The second binding is the first, or the first as declared by `let`. -/
def Binding.Softened (soft : Span → Prop) (b b' : Binding) : Prop :=
  b' = b ∨ b.kind = .varName ∧ b' = { b with kind := .letName } ∧ ∃ site ∈ b.sites, soft site.span

namespace Binding.Softened

variable {soft : Span → Prop} {b b' : Binding}

private theorem withSite (h : b.Softened soft b') (site : Site) :
    Binding.Softened soft { b with sites := b.sites ++ [site] } { b' with sites := b'.sites ++ [site] } := by
  rcases h with rfl | ⟨hvar, rfl, first, hfirst, hsoft⟩
  · exact .inl rfl
  · exact .inr ⟨hvar, rfl, first, List.mem_append_left _ hfirst, hsoft⟩

private theorem asExported (h : b.Softened soft b') :
    Binding.Softened soft { b with exported := true } { b' with exported := true } := by
  rcases h with rfl | ⟨hvar, rfl, hsoft⟩
  · exact .inl rfl
  · exact .inr ⟨hvar, rfl, hsoft⟩

end Binding.Softened

/-- The second record differs from the first only in the kinds of bindings. -/
structure ScopeRecord.Softened (soft : Span → Prop) (d d' : ScopeRecord) : Prop where
  scopes_eq : d'.scopes = d.scopes
  references_eq : d'.references = d.references
  declaredAt_eq : d'.declaredAt = d.declaredAt
  size_eq : d'.bindings.size = d.bindings.size
  binding : ∀ {id : Nat} {b : Binding}, d.bindings[id]? = some b →
    ∃ b', d'.bindings[id]? = some b' ∧ b.Softened soft b'

namespace ScopeRecord.Softened

variable {soft : Span → Prop} {d d' : ScopeRecord}

theorem refl (d : ScopeRecord) : Softened soft d d :=
  ⟨rfl, rfl, rfl, rfl, fun hb => ⟨_, hb, .inl rfl⟩⟩

theorem addSite (h : Softened soft d d') (id : Nat) (site : Site) :
    Softened soft (d.addSite id site) (d'.addSite id site) := by
  refine ⟨h.scopes_eq, h.references_eq, by simp [ScopeRecord.addSite, h.declaredAt_eq],
    by simp [ScopeRecord.addSite, h.size_eq], ?_⟩
  intro k b hb
  simp only [ScopeRecord.addSite, Array.getElem?_modify] at hb ⊢
  by_cases hk : id = k
  · rw [if_pos hk] at hb ⊢
    obtain ⟨b₀, hb₀, rfl⟩ := Option.map_eq_some_iff.1 hb
    obtain ⟨b', hb', hsoft⟩ := h.binding hb₀
    rw [hb']
    exact ⟨_, rfl, hsoft.withSite site⟩
  · rw [if_neg hk] at hb ⊢
    exact h.binding hb

theorem addBinding (h : Softened soft d d') (scope : Nat) {kind kind' : BindingKind} (name : String) (site : Site)
    (hkind : kind' = kind ∨ kind = .varName ∧ kind' = .letName ∧ soft site.span) :
    Softened soft (d.addBinding scope kind name site) (d'.addBinding scope kind' name site) := by
  refine ⟨by simp [ScopeRecord.addBinding, h.scopes_eq, h.size_eq], h.references_eq,
    by simp [ScopeRecord.addBinding, h.declaredAt_eq, h.size_eq], by simp [ScopeRecord.addBinding, h.size_eq], ?_⟩
  intro k b hb
  simp only [ScopeRecord.addBinding, Array.getElem?_push, h.size_eq] at hb ⊢
  by_cases hk : k = d.bindings.size
  · rw [if_pos hk] at hb ⊢
    obtain rfl := Option.some.inj hb
    refine ⟨_, rfl, ?_⟩
    rcases hkind with rfl | ⟨rfl, rfl, hsoft⟩
    · exact .inl rfl
    · exact .inr ⟨rfl, rfl, site, by simp, hsoft⟩
  · rw [if_neg hk] at hb ⊢
    exact h.binding hb

theorem declare (h : Softened soft d d') {opened : List Nat} {kind kind' : BindingKind} (name : String) (site : Site)
    (hhome : d'.home opened kind' = d.home opened kind)
    (hkind : kind' = kind ∨ kind = .varName ∧ kind' = .letName ∧ soft site.span) :
    Softened soft (d.declare opened kind name site) (d'.declare opened kind' name site) := by
  unfold ScopeRecord.declare
  simp only [hhome, h.scopes_eq]
  split
  · exact h.addSite _ site
  · exact h.addBinding _ name site hkind

theorem refer (h : Softened soft d d') (opened : List Nat) (name : String) (site : Site) :
    Softened soft (d.refer opened name site) (d'.refer opened name site) :=
  ⟨h.scopes_eq, by simp [ScopeRecord.refer, h.references_eq], h.declaredAt_eq, h.size_eq, h.binding⟩

theorem openScope (h : Softened soft d d') (opened : List Nat) (kind : ScopeKind) (span : Span) :
    Softened soft (d.openScope opened kind span) (d'.openScope opened kind span) :=
  ⟨by simp [ScopeRecord.openScope, h.scopes_eq], h.references_eq, h.declaredAt_eq, h.size_eq, h.binding⟩

theorem markExported (h : Softened soft d d') (first scope : Nat) :
    Softened soft (d.markExported first scope) (d'.markExported first scope) := by
  refine ⟨h.scopes_eq, h.references_eq, h.declaredAt_eq, by simp [ScopeRecord.markExported, h.size_eq], ?_⟩
  intro k b hb
  simp only [ScopeRecord.markExported, Array.getElem?_mapIdx, Option.map_eq_some_iff] at hb ⊢
  obtain ⟨b₀, hb₀, rfl⟩ := hb
  obtain ⟨b', hb', hsoft⟩ := h.binding hb₀
  refine ⟨_, ⟨b', hb', rfl⟩, ?_⟩
  have hscope : b'.scope = b₀.scope := by
    rcases hsoft with rfl | ⟨-, rfl, -⟩ <;> rfl
  by_cases hmark : first ≤ k ∧ b₀.scope = scope
  · rw [if_pos hmark, if_pos (hscope ▸ hmark)]
    exact hsoft.asExported
  · rw [if_neg hmark, if_neg (hscope ▸ hmark)]
    exact hsoft

end ScopeRecord.Softened

/-! ### Reading the softer outline -/

namespace Outline

/-- Reading the softer outline gives the softer record. -/
theorem Softens.recordAll {soft : Span → Prop} {kind : ScopeKind} {os os' : List Outline}
    (h : Softens ScopeKind.isFunctionLike soft kind os os') : ∀ {opened : List Nat} {d d' : ScopeRecord},
    d.IsInside kind opened → d.Softened soft d' →
    (record.recordAll opened os d).Softened soft (record.recordAll opened os' d') := by
  induction h with
  | nil => exact fun _ hd => hd
  | declare how name site _ ih =>
    intro opened d d' hin hd
    have hhome : d'.home opened how = d.home opened how := by
      simp only [ScopeRecord.home, ScopeRecord.hoistTarget, hd.scopes_eq]
    exact ih (hin.record (.declare how name site)) (hd.declare name site hhome (.inl rfl))
  | soften name site hkind hsoft _ ih =>
    intro opened d d' hin hd
    have hhome : d'.home opened .letName = d.home opened .varName := by
      rw [hin.home_eq .varName fun _ => hkind]
      rfl
    exact ih (hin.record (.declare .varName name site))
      (hd.declare name site hhome (.inr ⟨rfl, rfl, hsoft⟩))
  | refer name site _ ih =>
    intro opened d d' hin hd
    exact ih (hin.record (.refer name site)) (hd.refer opened name site)
  | @scope kind os os' parts parts' inner span _ _ ihparts ih =>
    intro opened d d' hin hd
    have hparts := ihparts (.openScope d opened inner span) (hd.openScope opened inner span)
    have hsize : d'.scopes.size = d.scopes.size := by rw [hd.scopes_eq]
    have hstep : ((Outline.scope inner span parts).record opened d).Softened soft
        ((Outline.scope inner span parts').record opened d') := by
      rw [Outline.record, Outline.record, hsize]
      exact hparts
    exact ih (hin.record (.scope inner span parts)) hstep
  | @exported kind os os' parts parts' _ _ ihparts ih =>
    intro opened d d' hin hd
    have hstep : ((Outline.exported parts).record opened d).Softened soft
        ((Outline.exported parts').record opened d') := by
      rw [Outline.record, Outline.record, hd.size_eq]
      exact (ihparts hin hd).markExported _ _
    exact ih (hin.record (.exported parts)) hstep

end Outline

/-- The second scope tree differs from the first only in the kinds of bindings. -/
structure ScopeTree.Softened (soft : Span → Prop) (t t' : ScopeTree) : Prop where
  scopes_eq : t'.scopes = t.scopes
  references_eq : t'.references = t.references
  declaredAt_eq : t'.declaredAt = t.declaredAt
  size_eq : t'.bindings.size = t.bindings.size
  binding : ∀ {id : Nat} {b : Binding}, t.bindings[id]? = some b →
    ∃ b', t'.bindings[id]? = some b' ∧ b.Softened soft b'

theorem ScopeTree.softened_ofTree {soft : Span → Prop} {t t' : Tree} (hspan : t'.root.fullSpan = t.root.fullSpan)
    (h : Outline.Softens ScopeKind.isFunctionLike soft .file
      (Node.outline.outlineAll t.source (fun _ => some .code) t.root.children)
      (Node.outline.outlineAll t'.source (fun _ => some .code) t'.root.children)) :
    (ofTree t).Softened soft (ofTree t') := by
  have hrecord : (t.outline.record [] .empty).Softened soft (t'.outline.record [] .empty) := by
    unfold Tree.outline
    rw [hspan, Outline.record, Outline.record]
    exact h.recordAll (.openScope .empty [] .file t.root.fullSpan) (.refl _)
  refine ⟨hrecord.scopes_eq, ?_, hrecord.declaredAt_eq, hrecord.size_eq, hrecord.binding⟩
  simp only [ofTree, ofRecord, hrecord.scopes_eq, hrecord.references_eq]

end ScriptTidy
