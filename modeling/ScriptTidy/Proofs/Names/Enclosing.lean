import ScriptTidy.Proofs.Names.Patterns
import ScriptTidy.Proofs.Names.Traversal

/-!
# The regions around a declaration

`Outline.placed` lists the declarations of an outline with the regions around each of them. On the way through the
outline, these are the declarations to which one comes, and the regions that are open there (`mem_placed_iff`).

`Tree.ReadsIn` says inside which regions the nodes of a tree are read. A tree declares a name by `var` where a
declaration has it in its patterns, or the head of a loop (`Tree.DeclaresVar`). This accounts for all declarations by
`var` in the outline of the tree (`declaresVar_iff`).
-/

namespace ScriptTidy

/-- A declaration of a name with the regions around it, the innermost of which comes first. -/
structure PlacedName where
  around : List Region
  kind : BindingKind
  name : String
  site : Site
  deriving DecidableEq, Repr

namespace Outline

def placed (around : List Region) : Outline → List PlacedName
  | declare kind name site => [⟨around, kind, name, site⟩]
  | refer _ _ => []
  | scope kind span parts => placedAll (⟨kind, span⟩ :: around) parts
  | exported parts => placedAll around parts
where
  placedAll (around : List Region) : List Outline → List PlacedName
    | [] => []
    | o :: os => o.placed around ++ placedAll around os

open placed

variable {around : List Region} {source : String} {r : Reading} {n : Node} {e : PlacedName}

@[simp] theorem placedAll_nil (around : List Region) : placedAll around [] = [] := rfl

@[simp] theorem placedAll_append (around : List Region) (os ps : List Outline) :
    placedAll around (os ++ ps) = placedAll around os ++ placedAll around ps := by
  induction os with
  | nil => rfl
  | cons o os ih => simp [placedAll, ih]

private theorem placedAll_flatMap {α : Type} (around : List Region) (xs : List α) (f : α → List Outline) :
    placedAll around (xs.flatMap f) = xs.flatMap fun x => placedAll around (f x) := by
  induction xs with
  | nil => rfl
  | cons x xs ih => simp [List.flatMap_cons, ih]

@[simp] theorem placedAll_stamp (around : List Region) (r : Reading) (parts : List Outline) :
    placedAll around (r.stamp parts) = placedAll around parts := by
  unfold Reading.stamp
  split <;> simp [placedAll, placed]

@[simp] theorem placedAll_enclose (around : List Region) (r : Reading) (n : Node) (parts : List Outline) :
    placedAll around (r.enclose n parts) = placedAll (r.ownRegion n ++ around) parts := by
  unfold Reading.enclose Reading.ownRegion
  cases r.scopeKind? n.kind <;> simp [placedAll, placed]

private theorem mem_placedAll_of_declare {kind : BindingKind} {name : String} {site : Site} {os : List Outline}
    (h : .declare kind name site ∈ os) : ⟨around, kind, name, site⟩ ∈ placedAll around os := by
  obtain ⟨front, back, rfl⟩ := List.append_of_mem h
  simp [placedAll, placed]

/-! ### On the way through an outline -/

/-- The declarations of some steps, where the regions around them are given. -/
def placedIn (around : List Region) : List Step → List PlacedName
  | [] => []
  | .declare kind name site :: steps => ⟨around, kind, name, site⟩ :: placedIn around steps
  | s :: steps => placedIn (ScopeBuilder.track around s) steps

private theorem placedIn_steps : ∀ (o : Outline) (around : List Region) (behind : List Step),
    placedIn around (o.steps ++ behind) = o.placed around ++ placedIn around behind
  | .declare _ _ _, _, _ => rfl
  | .refer _ _, _, _ => rfl
  | .scope kind span parts, around, behind => by
    have hparts := placedIn_stepsAll parts (⟨kind, span⟩ :: around) (.leave :: behind)
    simpa [steps, placed, placedIn, ScopeBuilder.track] using hparts
  | .exported parts, around, behind => by
    have hparts := placedIn_stepsAll parts around (.endExport :: behind)
    simpa [steps, placed, placedIn, ScopeBuilder.track] using hparts
where
  placedIn_stepsAll : ∀ (os : List Outline) (around : List Region) (behind : List Step),
      placedIn around (steps.stepsAll os ++ behind) = placedAll around os ++ placedIn around behind
    | [], _, _ => rfl
    | o :: os, around, behind => by
      rw [steps.stepsAll, List.append_assoc, placedIn_steps o, placedIn_stepsAll os, placedAll, List.append_assoc]

private theorem mem_placedIn_cons {s : Step} {steps : List Step} : e ∈ placedIn around (s :: steps) ↔
    (s = .declare e.kind e.name e.site ∧ around = e.around) ∨ e ∈ placedIn (ScopeBuilder.track around s) steps := by
  cases s with
  | declare kind name site =>
    obtain ⟨inner, kind', name', site'⟩ := e
    simp [placedIn, ScopeBuilder.track, eq_comm, and_comm, and_assoc]
  | _ => simp [placedIn]

private theorem mem_placedIn_iff {steps : List Step} : e ∈ placedIn around steps ↔
    ∃ front back, steps = front ++ .declare e.kind e.name e.site :: back ∧
      ScopeBuilder.openAfter around front = e.around := by
  induction steps generalizing around with
  | nil => simp [placedIn]
  | cons s steps ih =>
    rw [mem_placedIn_cons, ih]
    constructor
    · rintro (⟨rfl, haround⟩ | ⟨front, back, rfl, haround⟩)
      · exact ⟨[], steps, rfl, haround⟩
      · exact ⟨s :: front, back, rfl, haround⟩
    · rintro ⟨front, back, hsteps, haround⟩
      cases front with
      | nil => exact .inl ⟨(List.cons.inj hsteps).1, haround⟩
      | cons s' front =>
        obtain ⟨rfl, hrest⟩ := List.cons.inj hsteps
        exact .inr ⟨front, back, hrest, haround⟩

/-- To the declarations of an outline one comes when these regions are open. -/
theorem mem_placed_iff {o : Outline} : e ∈ o.placed around ↔
    ∃ front back, o.steps = front ++ .declare e.kind e.name e.site :: back ∧
      ScopeBuilder.openAfter around front = e.around := by
  have hsteps := placedIn_steps o around []
  rw [List.append_nil] at hsteps
  rw [← mem_placedIn_iff, hsteps]
  simp [placedIn]

/-! ### What a node declares by itself -/

private theorem mem_placedAll_declareNode {kind : BindingKind} {form : Form}
    (h : e ∈ placedAll around (declareNode source kind form n)) :
    e.kind = kind ∧ e.around = around ∧ .declare e.kind e.name e.site ∈ declareNode source kind form n := by
  unfold declareNode at h ⊢
  split at h
  · cases h
  · rw [if_neg ‹_›]
    obtain rfl : e = ⟨around, kind, n.text source, ⟨n.span, form⟩⟩ := by simpa [placedAll, placed] using h
    simp

private theorem kind_of_declareName {kind : BindingKind}
    (h : e ∈ placedAll around (((n.childByField? .name).map (declareNode source kind .plain)).getD [])) :
    e.kind = kind := by
  cases hc : n.childByField? .name with
  | none => simp [hc] at h
  | some c =>
    rw [hc] at h
    exact (mem_placedAll_declareNode h).1

theorem kind_of_preamble (h : e ∈ placedAll around (r.preamble source n)) : e.kind ≠ .varName := by
  unfold Reading.preamble at h
  split at h
  · rw [kind_of_declareName h]
    decide
  · rw [kind_of_declareName h]
    decide
  · cases h

@[simp] theorem placedAll_referNode (around : List Region) (source : String) (form : Form) (n : Node) :
    placedAll around (referNode source form n) = [] := by
  unfold referNode
  split <;> simp [placedAll, placed]

/-- By itself, a node declares by `var` only if it is read as a pattern of a declaration by `var`. -/
private theorem pattern_of_opening (h : e ∈ placedAll around (r.opening source n)) (hvar : e.kind = .varName) :
    r = .pattern .varName ∧ e.around = around ∧ .declare .varName e.name e.site ∈ r.opening source n := by
  have hexported : ∀ c, placedAll around (Reading.exportedBy source c) = [] := by
    intro c
    unfold Reading.exportedBy
    repeat' split
    all_goals simp
  cases r with
  | code =>
    unfold Reading.opening at h
    dsimp only at h
    split at h
    · simp at h
    · cases (kind_of_declareName h).symm.trans hvar
    · cases (kind_of_declareName h).symm.trans hvar
    · rw [placedAll_flatMap] at h
      obtain ⟨c, -, hc⟩ := List.mem_flatMap.1 h
      cases (mem_placedAll_declareNode hc).1.symm.trans hvar
    · cases h
  | pattern k =>
    have hnode : ∀ {form : Form}, e ∈ placedAll around (declareNode source k form n) →
        k = .varName ∧ e.around = around ∧ .declare .varName e.name e.site ∈ declareNode source k form n := by
      intro form he
      obtain ⟨hkind, haround, hmem⟩ := mem_placedAll_declareNode he
      exact ⟨hkind.symm.trans hvar, haround, hvar ▸ hmem⟩
    simp only [Reading.opening] at h ⊢
    split at h
    case h_1 hk =>
      obtain ⟨rfl, hrest⟩ := hnode h
      exact ⟨rfl, hrest⟩
    case h_2 hk =>
      obtain ⟨rfl, hrest⟩ := hnode h
      exact ⟨rfl, hrest⟩
    case h_3 => cases h
  | exportList => simp [Reading.opening, placedAll_flatMap, hexported] at h
  | tag =>
    unfold Reading.opening at h
    dsimp only at h
    split at h <;> simp at h
  | typeName => cases (mem_placedAll_declareNode h).1.symm.trans hvar
  | body | parameterList | parameter | declarator | exportedDeclaration => cases h

end Outline

/-! ### The regions around a node -/

/-- The node is read in this way inside these regions, the innermost of which comes first. -/
inductive Tree.ReadsIn (t : Tree) : List Region → Reading → Node → Prop
  | top {c : Node} : c ∈ t.root.children → ReadsIn t [⟨.file, t.root.fullSpan⟩] .code c
  | child {around : List Region} {r r' : Reading} {n c : Node} : ReadsIn t around r n → c ∈ n.children →
    (r.settle n.kind).role t.source n c = some r' → ReadsIn t ((r.settle n.kind).ownRegion n ++ around) r' c
  /-- The computed name of a method is read in front of the method's region. -/
  | name {around : List Region} {r : Reading} {n c : Node} : ReadsIn t around r n →
    (r.settle n.kind).readsName n = true → n.childByField? .name = some c → ReadsIn t around .code c

open Outline.placed

private theorem Node.placedAll_outline (around : List Region) (source : String) (reading : Reading) (n : Node) :
    placedAll around (n.outline source reading) =
      placedAll around ((reading.settle n.kind).preamble source n) ++
        placedAll around (n.outlineName source (reading.settle n.kind)) ++
        (placedAll ((reading.settle n.kind).ownRegion n ++ around) ((reading.settle n.kind).opening source n) ++
          n.children.flatMap fun c => placedAll ((reading.settle n.kind).ownRegion n ++ around)
            (outlineAs source ((reading.settle n.kind).role source n) c)) := by
  rw [outline_eq]
  simp [outlineParts, Outline.placedAll_flatMap]

/-- What the outline of a node declares is declared inside the same regions in that of the tree. -/
private theorem Tree.ReadsIn.placed_subset {t : Tree} {around : List Region} {r : Reading} {n : Node}
    (h : t.ReadsIn around r n) : placedAll around (n.outline t.source r) ⊆ t.outline.placed [] := by
  induction h with
  | @top c hc =>
    intro e he
    rw [Tree.outline, Outline.placed, Node.outlineAll_eq_flatMap, Outline.placedAll_flatMap]
    exact List.mem_flatMap.2 ⟨c, hc, he⟩
  | @child around r r' n c _ hc hrole ih =>
    intro e he
    refine ih ?_
    rw [Node.placedAll_outline]
    refine List.mem_append_right _ (List.mem_append_right _ (List.mem_flatMap.2 ⟨c, hc, ?_⟩))
    rwa [Node.outlineAs, hrole]
  | @name around r n c _ hreads hname ih =>
    intro e he
    refine ih ?_
    rw [Node.placedAll_outline, Node.outlineName_of_readsName hreads hname]
    exact List.mem_append_left _ (List.mem_append_right _ he)

/-! ### Names that are declared by `var` -/

/-- The name is declared by `var` inside these regions, in the pattern of a declaration or in the head of a loop. -/
inductive Tree.DeclaresVar (t : Tree) : List Region → String → Site → Prop
  | declarator {around : List Region} {r : Reading} {n d p : Node} {name : String} {site : Site} :
    t.ReadsIn around r n → r.settle n.kind = .code → n.kind.construct = .declaration →
    Reading.declaredKind t.source n = .varName → d ∈ n.children → d.kind = .variableDeclarator → p ∈ d.children →
    p.field = some .name → .declare .varName name site ∈ p.descent t.source .varName → DeclaresVar t around name site
  | head {around : List Region} {r : Reading} {n p : Node} {name : String} {site : Site} :
    t.ReadsIn around r n → r.settle n.kind = .code → n.kind.construct = .loopOver →
    Reading.loopKind? t.source n = some .varName → p ∈ n.children → p.field = some .left →
    .declare .varName name site ∈ p.descent t.source .varName → DeclaresVar t (⟨.loop, n.span⟩ :: around) name site

/-! Where a child gets such a reading -/

namespace Reading

variable {source : String} {r : Reading} {n c : Node} {how : BindingKind}

/-- Under a node that is read as code, declarators and patterns are the children of few nodes. -/
private theorem codeRole_cases (h : codeRole source n c = some r) :
    (n.kind.construct = .declaration ∧ c.kind = .variableDeclarator ∧ r = .declarator (declaredKind source n)) ∨
    (n.kind.construct = .loopOver ∧ c.field = some .left ∧ ∃ k, loopKind? source n = some k ∧ r = .pattern k) ∨
    r = .pattern .parameter ∨ r = .pattern .catchParameter ∨ ∀ k, r ≠ .declarator k ∧ r ≠ .pattern k := by
  simp only [codeRole] at h
  split at h
  -- the left side of a loop is read as a pattern or as code
  case h_11 => cases hk : loopKind? source n <;> grind
  all_goals grind [functionRole, exportRole]

private theorem role_eq_declarator (h : r.role source n c = some (.declarator how)) :
    r = .code ∧ n.kind.construct = .declaration ∧ declaredKind source n = how ∧ c.kind = .variableDeclarator := by
  cases r with
  | code =>
    rcases codeRole_cases h with ⟨hconstruct, hkind, heq⟩ | ⟨-, -, k, -, heq⟩ | heq | heq | hne
    · exact ⟨rfl, hconstruct, (declarator.inj heq).symm, hkind⟩
    · cases heq
    · cases heq
    · cases heq
    · exact absurd rfl (hne how).1
  | pattern k =>
    rcases patternRole_cases n c with hrole | hrole | hrole
    all_goals
      rw [role, hrole] at h
      cases h
  | _ =>
    simp only [role] at h
    repeat' split at h
    all_goals cases h

private theorem role_eq_pattern (h : r.role source n c = some (.pattern .varName)) :
    (r = .code ∧ n.kind.construct = .loopOver ∧ c.field = some .left ∧ loopKind? source n = some .varName) ∨
      (r = .declarator .varName ∧ c.field = some .name) ∨
      (r = .pattern .varName ∧ patternRole .varName n c = some (.pattern .varName)) := by
  cases r with
  | code =>
    rcases codeRole_cases h with ⟨-, -, heq⟩ | ⟨hconstruct, hfield, k, hk, heq⟩ | heq | heq | hne
    · cases heq
    · obtain rfl := pattern.inj heq
      exact .inl ⟨rfl, hconstruct, hfield, hk⟩
    · cases heq
    · cases heq
    · exact absurd rfl (hne .varName).2
  | pattern k =>
    rcases patternRole_cases n c with hrole | hrole | hrole
    all_goals
      rw [role, hrole] at h
      cases h
    exact .inr (.inr ⟨rfl, hrole .varName⟩)
  | _ =>
    simp only [role] at h
    repeat' split at h
    all_goals simp_all

private theorem eq_declarator_of_settle (h : r.settle n.kind = .declarator how) : r = .declarator how := by
  unfold settle at h
  repeat' split at h
  all_goals first | exact h | cases h

private theorem eq_pattern_of_settle (h : r.settle n.kind = .pattern .varName) : r = .pattern .varName := by
  unfold settle at h
  repeat' split at h
  all_goals first | exact h | cases h

private theorem isPattern_of_settle (h : r.settle n.kind = .pattern .varName) : isPattern n.kind = true := by
  obtain rfl := eq_pattern_of_settle h
  by_contra hnot
  simp [settle, hnot] at h

private theorem ownRegion_declaration (hcode : r = .code) (hconstruct : n.kind.construct = .declaration) :
    r.ownRegion n = [] := by
  simp [hcode, ownRegion, scopeKind?, hconstruct]

private theorem ownRegion_loopOver (hcode : r = .code) (hconstruct : n.kind.construct = .loopOver) :
    r.ownRegion n = [⟨.loop, n.span⟩] := by
  simp [hcode, ownRegion, scopeKind?, hconstruct]

end Reading

namespace Tree

variable {t : Tree} {around : List Region} {r : Reading} {n d : Node} {name : String} {site : Site} {e : PlacedName}

private theorem DeclaresVar.exists_pattern (h : t.DeclaresVar around name site) :
    ∃ p, t.ReadsIn around (.pattern .varName) p ∧ .declare .varName name site ∈ p.descent t.source .varName := by
  cases h with
  | @declarator _ r n d p _ _ hn hcode hconstruct hkind hd hdkind hp hfield hmem =>
    -- neither the declaration nor the declarator opens a region
    have hregion : ((Reading.declarator .varName).settle d.kind).ownRegion d = [] := rfl
    have hrole : (r.settle n.kind).role t.source n d = some (.declarator .varName) := by
      simp [hcode, Reading.role, Reading.codeRole, hconstruct, hdkind, hkind]
    have hrole' : ((Reading.declarator .varName).settle d.kind).role t.source d p = some (.pattern .varName) := by
      simp [Reading.settle, Reading.role, hfield]
    have hreads := (hn.child hd hrole).child hp hrole'
    rw [Reading.ownRegion_declaration hcode hconstruct, hregion] at hreads
    exact ⟨p, hreads, hmem⟩
  | @head around r n p _ _ hn hcode hconstruct hkind hp hfield hmem =>
    have hrole : (r.settle n.kind).role t.source n p = some (.pattern .varName) := by
      simp [hcode, Reading.role, Reading.codeRole, hconstruct, hfield, hkind]
    have hreads := hn.child hp hrole
    rw [Reading.ownRegion_loopOver hcode hconstruct] at hreads
    exact ⟨p, hreads, hmem⟩

private theorem DeclaresVar.mem_placed (h : t.DeclaresVar around name site) :
    ⟨around, .varName, name, site⟩ ∈ t.outline.placed [] := by
  obtain ⟨p, hp, hmem⟩ := h.exists_pattern
  have hoccurs : .declare .varName name site ∈ p.outline t.source (.pattern .varName) :=
    (Node.outline_pattern t.source .varName p).mem_iff.2 (List.mem_append_left _ hmem)
  exact hp.placed_subset (Outline.mem_placedAll_of_declare hoccurs)

private theorem ReadsIn.of_declarator {how : BindingKind} (h : t.ReadsIn around (.declarator how) d) :
    ∃ r n, t.ReadsIn around r n ∧ r.settle n.kind = .code ∧ n.kind.construct = .declaration ∧
      Reading.declaredKind t.source n = how ∧ d ∈ n.children ∧ d.kind = .variableDeclarator := by
  cases h with
  | @child _ r _ n _ hn hd hrole =>
    obtain ⟨hcode, hconstruct, hkind, hdkind⟩ := Reading.role_eq_declarator hrole
    rw [Reading.ownRegion_declaration hcode hconstruct]
    exact ⟨r, n, hn, hcode, hconstruct, hkind, hd, hdkind⟩

/-- A child that is read as a pattern of a declaration by `var` belongs to such a declaration, or stands in such a
pattern. -/
private theorem ReadsIn.pattern_cases {c : Node} (hn : t.ReadsIn around r n) (hc : c ∈ n.children)
    (hrole : (r.settle n.kind).role t.source n c = some (.pattern .varName))
    (hmem : .declare .varName name site ∈ c.descent t.source .varName) :
    t.DeclaresVar ((r.settle n.kind).ownRegion n ++ around) name site ∨
      r.settle n.kind = .pattern .varName ∧ .declare .varName name site ∈ n.descent t.source .varName := by
  rcases Reading.role_eq_pattern hrole with ⟨hcode, hconstruct, hfield, hkind⟩ | ⟨hsettle, hfield⟩ | ⟨hsettle, hchild⟩
  · rw [Reading.ownRegion_loopOver hcode hconstruct]
    exact .inl (.head hn hcode hconstruct hkind hc hfield hmem)
  · obtain rfl := Reading.eq_declarator_of_settle hsettle
    obtain ⟨r, p, hp, hcode, hconstruct, hkind, hd, hdkind⟩ := hn.of_declarator
    exact .inl (.declarator hp hcode hconstruct hkind hd hdkind hc hfield hmem)
  · refine .inr ⟨hsettle, ?_⟩
    have hinside : .declare .varName name site ∈ Node.descentIn t.source .varName n c := by
      rwa [Node.descentIn, if_pos hchild]
    rw [Node.descent_eq, if_pos (Reading.isPattern_of_settle hsettle)]
    exact List.mem_append_right _ (List.mem_flatMap.2 ⟨c, hc, hinside⟩)

/-- Whatever the outline of a node declares by `var` is declared by a declaration or a loop, if it is not declared by
the node as their pattern. -/
private theorem ReadsIn.declaresVar_or (hvar : e.kind = .varName) : ∀ {around : List Region} {r : Reading},
    t.ReadsIn around r n → e ∈ placedAll around (n.outline t.source r) → t.DeclaresVar e.around e.name e.site ∨
      r.settle n.kind = .pattern .varName ∧ e.around = around ∧
        .declare .varName e.name e.site ∈ n.descent t.source .varName := by
  induction n using Node.induction with
  | h label children ih =>
    intro around r hn he
    rw [Node.placedAll_outline, List.mem_append, List.mem_append, List.mem_append] at he
    rcases he with (hpreamble | hname) | (hopening | hchildren)
    · exact absurd hvar (Outline.kind_of_preamble hpreamble)
    · rcases Node.outlineName_cases t.source (r.settle label.kind) (.mk label children) with
        hnone | ⟨c, hreads, hc, hsome⟩
      · rw [Node.kind, Node.label, hnone] at hname
        cases hname
      · rw [Node.kind, Node.label, hsome] at hname
        rcases ih c (Node.mem_children_of_field hc) (hn.name hreads hc) hname with hdeclares | ⟨hsettle, -⟩
        · exact .inl hdeclares
        · cases hsettle
    · obtain ⟨hsettle, haround, hmem⟩ := Outline.pattern_of_opening hopening hvar
      refine .inr ⟨hsettle, ?_, ?_⟩
      · rw [haround, hsettle]
        rfl
      · rw [Node.descent_eq, if_pos (Reading.isPattern_of_settle hsettle), ← hsettle]
        exact List.mem_append_left _ hmem
    · obtain ⟨c, hc, hchild⟩ := List.mem_flatMap.1 hchildren
      cases hrole : (r.settle (Node.mk label children).kind).role t.source (.mk label children) c with
      | none =>
        rw [Node.outlineAs, hrole] at hchild
        cases hchild
      | some r' =>
        rw [Node.outlineAs, hrole] at hchild
        rcases ih c hc (hn.child hc hrole) hchild with hdeclares | ⟨hsettle, haround, hmem⟩
        · exact .inl hdeclares
        · obtain rfl := Reading.eq_pattern_of_settle hsettle
          rcases hn.pattern_cases hc hrole hmem with hdeclares | ⟨hparent, hmem'⟩
          · exact .inl (haround ▸ hdeclares)
          · refine .inr ⟨hparent, ?_, hmem'⟩
            rw [haround, hparent]
            rfl

theorem declaresVar_iff :
    t.DeclaresVar around name site ↔ ⟨around, .varName, name, site⟩ ∈ t.outline.placed [] := by
  refine ⟨DeclaresVar.mem_placed, fun h => ?_⟩
  rw [Tree.outline, Outline.placed, Node.outlineAll_eq_flatMap, Outline.placedAll_flatMap] at h
  obtain ⟨c, hc, h⟩ := List.mem_flatMap.1 h
  rcases ReadsIn.declaresVar_or rfl (.top hc) h with hdeclares | ⟨hsettle, -⟩
  · exact hdeclares
  · cases hsettle

end Tree

end ScriptTidy
