import ScriptTidy.Proofs.Names.SofterTree
import ScriptTidy.Proofs.Names.Thinning
import ScriptTidy.Proofs.Syntax.Pruning

/-!
# The names of a pruned tree

A tree loses statements and variables in `Node.prune`. All that tells how the other nodes are read stays, as long as
what is dropped stands in no place of a name (`Prunable`). So the outline of the pruned tree is the outline of the whole
tree without the outlines of what is dropped (`Prunable.thins_outline`).
-/

namespace ScriptTidy

/-- A kind of node that declares variables: a declaration, one variable of it, or an export statement. -/
def Kind.holdsVariables : Kind → Bool
  | lexicalDeclaration | variableDeclaration | variableDeclarator | exportStatement => true
  | _ => false

/-- What is dropped are declarations of variables in places where they tell nothing about other nodes, and `lost` holds
of their outlines. -/
structure Prunable (root : Node) (drops : Node.Visit → Node → Bool) (source : String) (lost : Outline → Prop) :
    Prop where
  kind : ∀ v ∈ root.walk, ∀ c ∈ v.node.children, drops v c = true → c.kind.holdsVariables = true
  field : ∀ v ∈ root.walk, ∀ c ∈ v.node.children, drops v c = true →
    c.field ≠ some .name ∧ c.field ≠ some .kind ∧ c.field ≠ some .source ∧ c.field ≠ some .asName
  exportClause : ∀ v ∈ root.walk, v.node.kind = .exportClause → ∀ c ∈ v.node.children, drops v c = false
  lost : ∀ v ∈ root.walk, ∀ c ∈ v.node.children, drops v c = true → ∀ r r' : Reading,
    r.role source v.node c = some r' → ∀ o ∈ c.outline source r', lost o

namespace Prunable

variable {root n : Node} {drops : Node.Visit → Node → Bool} {source : String} {lost : Outline → Prop}
  {parent : Option Node}

section Same

variable (P : Prunable root drops source lost) (hn : ⟨n, parent⟩ ∈ root.walk)
include P hn

theorem childByField?_prune {field : Field}
    (hfield : field = .name ∨ field = .kind ∨ field = .source ∨ field = .asName) :
    (n.prune drops parent).childByField? field = (n.childByField? field).map (Node.prune drops (some n)) := by
  refine Node.find?_children_prune (fun c _ => by rw [Node.field_prune]) fun c hc hdrop => ?_
  obtain ⟨hname, hkind, hsource, halias⟩ := P.field _ hn c hc hdrop
  refine decide_eq_false ?_
  rcases hfield with rfl | rfl | rfl | rfl
  · exact hname
  · exact hkind
  · exact hsource
  · exact halias

private theorem childOfKind?_prune {kind : Kind} (hkind : kind.holdsVariables = false) :
    (n.prune drops parent).childOfKind? kind = (n.childOfKind? kind).map (Node.prune drops (some n)) := by
  refine Node.find?_children_prune (fun c _ => by rw [Node.kind_prune]) fun c hc hdrop => decide_eq_false ?_
  rintro rfl
  rw [P.kind _ hn c hc hdrop] at hkind
  cases hkind

omit P hn in
/-- What the children add stays if what is dropped adds nothing. -/
private theorem flatMap_properChildren_prune {β : Type} {f : Node → List β}
    (hkept : ∀ c ∈ n.children, drops ⟨n, parent⟩ c = false → f (c.prune drops (some n)) = f c)
    (hdropped : ∀ c ∈ n.children, drops ⟨n, parent⟩ c = true → f c = []) :
    (n.prune drops parent).properChildren.flatMap f = n.properChildren.flatMap f := by
  unfold Node.properChildren
  rw [Node.children_prune]
  generalize hcs : n.children = cs at hkept hdropped
  clear hcs
  induction cs with
  | nil => rfl
  | cons c cs ih =>
    rw [List.forall_mem_cons] at hkept hdropped
    have hrest := ih hkept.2 hdropped.2
    cases hdrop : drops ⟨n, parent⟩ c with
    | true =>
      rw [List.filter_cons_of_neg (by simp [hdrop]), hrest, List.filter_cons]
      split
      · rw [List.flatMap_cons, hdropped.1 hdrop, List.nil_append]
      · rfl
    | false =>
      rw [List.filter_cons_of_pos (by simp [hdrop]), List.map_cons, List.filter_cons, List.filter_cons,
        Node.isProper_prune]
      split
      · rw [List.flatMap_cons, List.flatMap_cons, hkept.1 hdrop, hrest]
      · exact hrest

/-! ### What a node adds by itself -/

private theorem importedName?_prune :
    (Reading.importedName? (n.prune drops parent)).map Node.label = (Reading.importedName? n).map Node.label := by
  unfold Reading.importedName?
  rw [Node.kind_prune, P.childByField?_prune hn (by simp), P.childByField?_prune hn (by simp), ← Option.map_or,
    Option.filter_map]
  split
  · simp [Function.comp_def]
  · rfl

private theorem importedBy_prune :
    (Reading.importedBy (n.prune drops parent)).map Node.label = (Reading.importedBy n).map Node.label := by
  unfold Reading.importedBy
  rw [Node.kind_prune]
  split
  · simp
  · rw [P.childOfKind?_prune hn rfl]
    cases n.childOfKind? .identifier <;> simp
  · rw [List.map_filterMap, List.map_filterMap, List.filterMap_eq_flatMap_toList, List.filterMap_eq_flatMap_toList]
    refine flatMap_properChildren_prune (fun c hc _ => ?_) fun c hc hdrop => ?_
    · rw [P.importedName?_prune (Node.child_mem_walk hn hc)]
    · have hkind := P.kind _ hn c hc hdrop
      have hne : c.kind ≠ .importSpecifier := by
        intro hk
        rw [hk] at hkind
        cases hkind
      simp [Reading.importedName?, hne]
  · rfl

private theorem importedNames_prune :
    (Reading.importedNames (n.prune drops parent)).map Node.label = (Reading.importedNames n).map Node.label := by
  unfold Reading.importedNames
  rw [List.map_flatMap, List.map_flatMap]
  refine flatMap_properChildren_prune (fun clause hclause _ => ?_) fun c hc hdrop => ?_
  · have hwalk := Node.child_mem_walk hn hclause
    rw [Node.kind_prune]
    split
    · rw [List.map_flatMap, List.map_flatMap]
      refine flatMap_properChildren_prune (fun part hpart _ => ?_) fun part hpart hdrop => ?_
      · exact P.importedBy_prune (Node.child_mem_walk hwalk hpart)
      · have hkind := P.kind _ hwalk part hpart hdrop
        unfold Reading.importedBy
        split <;> simp_all [Kind.holdsVariables]
    · rw [P.childOfKind?_prune hwalk rfl]
      cases clause.childOfKind? .identifier <;> simp
    · rfl
  · have hkind := P.kind _ hn c hc hdrop
    split <;> simp_all [Kind.holdsVariables]

private theorem exportedBy_prune :
    Reading.exportedBy source (n.prune drops parent) = Reading.exportedBy source n := by
  unfold Reading.exportedBy
  rw [P.childByField?_prune hn (by simp), P.childByField?_prune hn (by simp)]
  cases n.childByField? .name with
  | none => rfl
  | some name => simp [Outline.referNode]

/-- The name of a function or class is declared as before. -/
private theorem declareName_prune (how : BindingKind) :
    (((n.prune drops parent).childByField? .name).map (Outline.declareNode source how .plain)).getD [] =
      ((n.childByField? .name).map (Outline.declareNode source how .plain)).getD [] := by
  rw [P.childByField?_prune hn (by simp)]
  cases n.childByField? .name <;> simp [Outline.declareNode]

private theorem preamble_prune (r : Reading) : r.preamble source (n.prune drops parent) = r.preamble source n := by
  unfold Reading.preamble
  rw [Node.kind_prune]
  split
  · exact P.declareName_prune hn _
  · exact P.declareName_prune hn _
  · rfl

private theorem opening_prune {r : Reading} (hr : r.Suits n.kind) :
    r.opening source (n.prune drops parent) = r.opening source n := by
  have himported : ∀ ns : List Node, ns.flatMap (Outline.declareNode source .importName .plain) =
      (ns.map Node.label).flatMap fun l => Outline.declareNode source .importName .plain (.mk l []) := by
    intro ns
    rw [List.flatMap_map]
    rfl
  cases r with
  | code =>
    simp only [Reading.opening, Node.kind_prune]
    split
    · simp [Outline.referNode]
    · exact P.declareName_prune hn _
    · exact P.declareName_prune hn _
    · rw [himported, P.importedNames_prune hn, ← himported]
    · rfl
  | exportList =>
    refine flatMap_properChildren_prune (fun c hc _ => P.exportedBy_prune (Node.child_mem_walk hn hc))
      fun c hc hdrop => ?_
    rw [P.exportClause _ hn hr c hc] at hdrop
    cases hdrop
  | pattern how => simp [Reading.opening, Outline.declareNode]
  | tag => simp [Reading.opening, Outline.referNode]
  | typeName => simp [Reading.opening, Outline.declareNode]
  | body | parameterList | parameter | declarator _ | exportedDeclaration => rfl

/-! ### How the children are read -/

private theorem readsName_prune (r : Reading) : r.readsName (n.prune drops parent) = r.readsName n := by
  unfold Reading.readsName
  rw [Node.kind_prune, P.childByField?_prune hn (by simp), Option.any_map]
  simp only [Node.kind_prune]

private theorem loopKind?_prune :
    Reading.loopKind? source (n.prune drops parent) = Reading.loopKind? source n := by
  unfold Reading.loopKind?
  rw [P.childByField?_prune hn (by simp), Option.map_map]
  simp [Function.comp_def]

private theorem declaredKind_prune :
    Reading.declaredKind source (n.prune drops parent) = Reading.declaredKind source n := by
  have hloop := P.loopKind?_prune hn
  unfold Reading.loopKind? at hloop
  unfold Reading.declaredKind
  rw [Node.kind_prune, hloop]

private theorem role_prune (r : Reading) (c : Node) (around : Option Node) :
    r.role source (n.prune drops parent) (c.prune drops around) = r.role source n c := by
  cases r with
  | code =>
    simp only [Reading.role, Reading.codeRole, Node.kind_prune, Node.field_prune, Reading.functionRole,
      Reading.exportRole, P.loopKind?_prune hn, P.declaredKind_prune hn,
      P.childByField?_prune hn (.inr (.inr (.inl rfl))), Option.isSome_map]
  | pattern how =>
    simp only [Reading.role, Reading.patternRole, Node.kind_prune, Node.field_prune, Node.isProper_prune]
  | body | parameterList | parameter | declarator _ | exportedDeclaration | exportList | tag | typeName =>
    simp only [Reading.role, Node.field_prune, Node.isProper_prune]

end Same

/-! ### The outline of the pruned tree -/

variable (P : Prunable root drops source lost)
include P

/-- The children that stay, each in its role. -/
private theorem thins_children (hn : ⟨n, parent⟩ ∈ root.walk) (r : Reading)
    (h : ∀ c ∈ n.children, drops ⟨n, parent⟩ c = false → ∀ r', r.role source n c = some r' →
      Outline.Thins lost ((c.prune drops (some n)).outline source r') (c.outline source r')) :
    Outline.Thins lost
      ((n.prune drops parent).children.flatMap (Node.outlineAs source (r.role source (n.prune drops parent))))
      (n.children.flatMap (Node.outlineAs source (r.role source n))) := by
  have hlost := P.lost _ hn
  have hrole := fun c => P.role_prune hn r c (some n)
  rw [Node.children_prune]
  dsimp only at hlost
  generalize n.children = cs at h hlost
  induction cs with
  | nil => exact .nil
  | cons c cs ih =>
    rw [List.forall_mem_cons] at h hlost
    have hrest := ih h.2 hlost.2
    rw [List.flatMap_cons]
    cases hdrop : drops ⟨n, parent⟩ c with
    | true =>
      rw [List.filter_cons_of_neg (by simp [hdrop]), ← List.nil_append (List.flatMap _ _)]
      refine .append (.drop_all fun o ho => ?_) hrest
      unfold Node.outlineAs at ho
      cases hr : r.role source n c with
      | none => simp [hr] at ho
      | some r' =>
        rw [hr] at ho
        exact hlost.1 hdrop r r' hr o ho
    | false =>
      rw [List.filter_cons_of_pos (by simp [hdrop]), List.map_cons, List.flatMap_cons]
      refine .append ?_ hrest
      unfold Node.outlineAs
      rw [hrole]
      cases hr : r.role source n c with
      | none => exact .nil
      | some r' => exact h.1 hdrop r' hr

omit P in
private theorem thins_enclose {r : Reading} {parts' parts : List Outline} (h : Outline.Thins lost parts' parts) :
    Outline.Thins lost (r.enclose (n.prune drops parent) parts') (r.enclose n parts) := by
  unfold Reading.enclose
  rw [Node.kind_prune, Node.span_prune]
  split
  · exact .scope _ _ h .nil
  · exact h

/-- The outline of a pruned node is the outline of the node without what is dropped. -/
theorem thins_outline (n : Node) : ∀ parent, ⟨n, parent⟩ ∈ root.walk → ∀ r : Reading, r.Suits n.kind →
    Outline.Thins lost ((n.prune drops parent).outline source r) (n.outline source r) := by
  induction n using Node.induction with
  | h label children ih =>
    intro parent hn r hsuits
    generalize hnode : Node.mk label children = n at *
    have hchildren : n.children = children := by rw [← hnode]; rfl
    rw [← hchildren] at ih
    have hparts : Outline.Thins lost ((n.prune drops parent).outlineParts source (r.settle n.kind))
        (n.outlineParts source (r.settle n.kind)) := by
      unfold Node.outlineParts
      rw [P.opening_prune hn hsuits.settle]
      refine .append (.refl _) (P.thins_children hn _ fun c hc _ r' hrole => ?_)
      exact ih c hc _ (Node.child_mem_walk hn hc) r' (Reading.suits_of_role hrole)
    have hname : Outline.Thins lost ((n.prune drops parent).outlineName source (r.settle n.kind))
        (n.outlineName source (r.settle n.kind)) := by
      unfold Node.outlineName
      rw [P.readsName_prune hn, P.childByField?_prune hn (.inl rfl)]
      split
      · cases hc : n.childByField? .name with
        | none => exact .nil
        | some c =>
          have hmem := Node.mem_children_of_field hc
          exact ih c hmem _ (Node.child_mem_walk hn hmem) .code trivial
      · exact .nil
    rw [Node.outline_eq, Node.outline_eq source r n, Node.kind_prune, P.preamble_prune hn]
    exact (((Outline.Thins.refl _).append hname).append (thins_enclose hparts)).stamp r

omit P in
/-- The outline of a pruned file is the outline of the file without what is dropped. -/
theorem thins_file {t : Tree} (P : Prunable t.root drops t.source lost) :
    Outline.Thins lost [Tree.outline { t with root := t.root.prune drops none }] [t.outline] := by
  have hroot : ⟨t.root, none⟩ ∈ t.root.walk := Node.mem_walk.2 (.inl rfl)
  -- the statements of a file are read as those of a function's body are
  have hbody := P.thins_children hroot .body fun c hc _ r' hrole =>
    P.thins_outline c _ (Node.child_mem_walk hroot hc) r' (Reading.suits_of_role hrole)
  rw [Tree.outline, Tree.outline, Node.fullSpan_prune, Node.outlineAll_eq_flatMap, Node.outlineAll_eq_flatMap]
  exact .scope _ _ hbody .nil

end Prunable

/-! ### The outline of what is dropped -/

/-- A node that holds variables is read as code, or as one variable of a declaration. -/
theorem Reading.settle_of_holdsVariables {source : String} {r r' : Reading} {n c : Node}
    (hc : c.kind.holdsVariables = true) (hfield : c.field ≠ some .parameters) (h : r.role source n c = some r') :
    r'.settle c.kind = .code ∨ c.kind = .variableDeclarator ∧ ∃ how, r' = .declarator how := by
  have hkind : c.kind ≠ .identifier ∧ c.kind ≠ .typeIdentifier ∧ c.kind ≠ .exportClause ∧ c.kind ≠ .statementBlock := by
    refine ⟨?_, ?_, ?_, ?_⟩ <;>
    · intro hk
      rw [hk] at hc
      cases hc
  have hpattern : ∀ how, (Reading.pattern how).settle c.kind = .code := by
    intro how
    cases hkind : c.kind <;> simp_all [Kind.holdsVariables, Reading.isPattern, Reading.settle]
  have hparameter : Reading.parameter.settle c.kind = .code := by
    cases hkind : c.kind <;> simp_all [Kind.holdsVariables, Reading.isPattern, Reading.settle]
  cases r with
  | code =>
    simp only [role, codeRole] at h
    split at h
    -- a loop over the elements of a collection reads its left side as a pattern or as code
    case h_11 =>
      cases hk : loopKind? source n <;> simp only [hk] at h <;> split at h <;> cases h
      all_goals first | exact .inl (hpattern _) | exact .inl rfl
    case h_13 =>
      split at h <;> cases h
      · exact .inr ⟨‹_›, _, rfl⟩
      · exact .inl rfl
    all_goals try simp only [functionRole, exportRole] at h
    all_goals repeat' split at h
    all_goals cases h
    all_goals first | exact .inl (hpattern _) | exact .inl rfl | simp_all
  | pattern how =>
    simp only [role, patternRole] at h
    repeat' split at h
    all_goals cases h
    all_goals first | exact .inl (hpattern _) | exact .inl rfl
  | parameterList =>
    simp only [role] at h
    split at h <;> cases h
    exact .inl hparameter
  | _ =>
    simp only [role] at h
    repeat' split at h
    all_goals cases h
    all_goals first | exact .inl (hpattern _) | exact .inl rfl

/-- Nothing but the children of such a node is a name, and the node opens no region. -/
def Construct.isPlain : Construct → Bool
  | inert | declaration | exportStatement | compound => true
  | _ => false

theorem Node.outline_of_isPlain {source : String} {r : Reading} {n : Node} (hn : n.kind.construct.isPlain = true)
    (hr : r.settle n.kind = .code ∨ ∃ how, r = .declarator how) :
    n.outline source r = r.stamp (n.children.flatMap (outlineAs source ((r.settle n.kind).role source n))) := by
  have hsettle : r.settle n.kind = .code ∨ ∃ how, r.settle n.kind = .declarator how := by
    rcases hr with hr | ⟨how, rfl⟩
    · exact .inl hr
    · exact .inr ⟨how, rfl⟩
  rw [outline_eq]
  congr 1
  rcases hsettle with hr | ⟨how, hr⟩
  · rw [hr]
    cases hk : n.kind.construct <;> simp_all [Construct.isPlain, Reading.preamble, outlineName, Reading.readsName,
      Reading.enclose, Reading.scopeKind?, outlineParts, Reading.opening]
  · rw [hr]
    simp [Reading.preamble, outlineName, Reading.readsName, Reading.enclose, Reading.scopeKind?, outlineParts,
      Reading.opening]

namespace Node

/-- A keyword, a sign or a comment. -/
def IsToken (n : Node) : Prop := n.children = [] ∧ n.kind.construct.isPlain = true

instance (n : Node) : Decidable n.IsToken := inferInstanceAs (Decidable (_ ∧ _))

theorem outline_of_isToken {source : String} {r : Reading} {n : Node} (hn : n.IsToken)
    (hr : r.settle n.kind = .code ∨ r = .exportList) : n.outline source r = r.stamp [] := by
  rcases hr with hr | rfl
  · rw [outline_of_isPlain hn.2 (.inl hr), hn.1]
    rfl
  · rw [outline_eq]
    simp [Reading.settle, Reading.preamble, outlineName, Reading.readsName, Reading.enclose, Reading.scopeKind?,
      outlineParts, Reading.opening, properChildren, hn.1]

/-- An identifier is a name that is declared where it is read as a pattern, and referred to where it is read as code. -/
theorem outline_of_identifier (source : String) {n : Node} (hn : n.kind = .identifier) :
    n.outline source .code = Outline.referNode source .plain n ∧
      ∀ how, n.outline source (.pattern how) = Outline.declareNode source how .plain n := by
  have hnone : ∀ role : Node → Option Reading, (∀ c, role c = none) →
      n.children.flatMap (outlineAs source role) = [] := by
    intro role hrole
    simp [outlineAs, hrole]
  constructor
  · rw [outline_eq, hn]
    simp [Reading.settle, Reading.stamp, Reading.preamble, Reading.readsName, outlineName, Reading.enclose,
      Reading.scopeKind?, outlineParts, Reading.opening, hn, Kind.construct, hnone, Reading.role, Reading.codeRole]
  · intro how
    rw [outline_eq, hn]
    simp [Reading.settle, Reading.stamp, Reading.preamble, Reading.readsName, outlineName, Reading.enclose,
      Reading.scopeKind?, outlineParts, Reading.opening, hn, Kind.construct, hnone, Reading.role, Reading.patternRole,
      Reading.isPattern]

end Node

end ScriptTidy
