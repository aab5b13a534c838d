import Mathlib.Data.List.Basic
import ScriptTidy.Proofs.Names.Exports
import ScriptTidy.Proofs.Names.Softening

/-!
# The tree with softer declarations

`Node.soften` turns chosen declarations by `var` into declarations by `let`, as a parser would give them for the text
with the other keyword. Nothing else in the tree changes. So the outline of the softer tree is the softer outline
(`softens_outline`), provided that every name reads as before (`Rewording`). If the chosen declarations also stand
directly in a function or the file (`Softening`), the scope trees differ in nothing but the kinds of bindings
(`softened_ofTree`).
-/

namespace ScriptTidy

namespace Node

/-- The keyword `let` in the place of another keyword. -/
def asLet : Node → Node
  | mk label children => mk { label with kind := .other "let", field := some .kind } children

/-- The tree in which the chosen declarations are declarations by `let`. -/
def soften (chosen : Node → Bool) : Node → Node
  | mk label children =>
    if chosen (mk label children) then
      mk { label with kind := .lexicalDeclaration } ((softenAll children).modifyHead asLet)
    else mk label (softenAll children)
where
  softenAll : List Node → List Node
    | [] => []
    | n :: ns => n.soften chosen :: softenAll ns

variable {chosen : Node → Bool} {n : Node}

private theorem softenAll_eq_map (ns : List Node) : soften.softenAll chosen ns = ns.map (soften chosen) := by
  induction ns with
  | nil => rfl
  | cons n ns ih => rw [soften.softenAll, ih, List.map_cons]

private theorem soften_eq (n : Node) : n.soften chosen =
    if chosen n then mk { n.label with kind := .lexicalDeclaration } ((n.children.map (soften chosen)).modifyHead asLet)
    else mk n.label (n.children.map (soften chosen)) := by
  cases n with
  | mk label children =>
    rw [soften, softenAll_eq_map]
    rfl

@[simp] theorem span_soften (n : Node) : (n.soften chosen).span = n.span := by
  rw [soften_eq]
  split <;> rfl

@[simp] theorem fullSpan_soften (n : Node) : (n.soften chosen).fullSpan = n.fullSpan := by
  rw [soften_eq]
  split <;> rfl

@[simp] theorem field_soften (n : Node) : (n.soften chosen).field = n.field := by
  rw [soften_eq]
  split <;> rfl

@[simp] theorem named_soften (n : Node) : (n.soften chosen).named = n.named := by
  rw [soften_eq]
  split <;> rfl

@[simp] theorem text_soften (n : Node) (source : String) : (n.soften chosen).text source = n.text source := by
  simp [text]

theorem kind_soften_of_chosen (h : chosen n = true) : (n.soften chosen).kind = .lexicalDeclaration := by
  rw [soften_eq, if_pos h]
  rfl

theorem kind_soften_of_not (h : ¬ chosen n = true) : (n.soften chosen).kind = n.kind := by
  rw [soften_eq, if_neg h]
  rfl

theorem children_soften_of_not (h : ¬ chosen n = true) :
    (n.soften chosen).children = n.children.map (soften chosen) := by
  rw [soften_eq, if_neg h]
  rfl

theorem children_soften_of_chosen (h : chosen n = true) :
    (n.soften chosen).children = (n.children.map (soften chosen)).modifyHead asLet := by
  rw [soften_eq, if_pos h]
  rfl

/-- Among softened nodes, the first that fills a field is the softened first that does. -/
private theorem find?_field_map_soften (ns : List Node) (field : Field) :
    (ns.map (soften chosen)).find? (·.field = some field) = (ns.find? (·.field = some field)).map (soften chosen) := by
  rw [List.find?_map]
  simp

theorem childByField?_soften_of_not (h : ¬ chosen n = true) (field : Field) :
    (n.soften chosen).childByField? field = (n.childByField? field).map (soften chosen) := by
  unfold childByField?
  rw [children_soften_of_not h, find?_field_map_soften]

@[simp] theorem field_asLet (n : Node) : n.asLet.field = some .kind := by
  cases n; rfl

@[simp] theorem kind_asLet (n : Node) : n.asLet.kind = .other "let" := by
  cases n; rfl

@[simp] theorem children_asLet (n : Node) : n.asLet.children = n.children := by
  cases n; rfl

@[simp] theorem text_asLet (n : Node) (source : String) : n.asLet.text source = n.text source := by
  cases n; rfl

/-- The identifiers in a node that it declares when it is read as a pattern, and those in default values. -/
def declarable (n : Node) : List Node :=
  n.nodes.filter fun m => m.kind = .identifier ∨ m.kind = .shorthandPropertyIdentifierPattern

theorem mem_declarable {m n : Node} : m ∈ n.declarable ↔
    m ∈ n.nodes ∧ (m.kind = .identifier ∨ m.kind = .shorthandPropertyIdentifierPattern) := by
  simp [declarable]

theorem declarable_of_child {m n c : Node} (hc : c ∈ n.children) (hm : m ∈ c.declarable) : m ∈ n.declarable :=
  mem_declarable.2 ((mem_declarable.1 hm).imp_left (mem_nodes_of_child hc))

end Node

namespace Reading

/-- The readings in which only some kinds of nodes are read. -/
def Suits : Reading → Kind → Prop
  | tag, kind => kind.isIdentifier = true
  | typeName, kind => kind.isIdentifier = true
  | exportList, kind => kind = .exportClause
  | _, _ => True

theorem Suits.settle {r : Reading} {kind : Kind} (h : r.Suits kind) : (r.settle kind).Suits kind := by
  cases r with
  | parameter =>
    simp only [Reading.settle]
    repeat' split
    all_goals trivial
  | pattern how =>
    simp only [Reading.settle]
    split <;> trivial
  | exportedDeclaration => trivial
  | _ => exact h

/-- A child gets a reading that suits it. -/
theorem suits_of_role {source : String} {r r' : Reading} {n c : Node} (h : r.role source n c = some r') :
    r'.Suits c.kind := by
  cases r with
  | code =>
    simp only [role, codeRole] at h
    split at h
    -- a loop over the elements of a collection reads its left side as a pattern or as code
    case h_11 =>
      cases hk : loopKind? source n <;> simp only [hk] at h <;> split at h <;> cases h <;> trivial
    case h_15 =>
      split at h <;> cases h
      · rename_i hc
        rcases hc.2 with hk | hk <;> rw [hk] <;> rfl
      · trivial
    case h_16 =>
      split at h <;> cases h
      · rename_i hc
        rw [hc.2]
        rfl
      · trivial
    all_goals try simp only [functionRole, exportRole] at h
    all_goals repeat' split at h
    all_goals cases h
    all_goals trivial
  | pattern how =>
    simp only [role, patternRole] at h
    repeat' split at h
    all_goals cases h
    all_goals trivial
  | _ =>
    simp only [role] at h
    repeat' split at h
    all_goals cases h
    all_goals trivial

/-- The second reading is the first, or declares by `let` what the first declares by `var`. That is only done in regions
of a kind that is free for this, with names at places that `soft` allows. -/
inductive Softer (free : ScopeKind → Bool) (soft : Span → Prop) (kind : ScopeKind) (n : Node) :
    Reading → Reading → Prop
  | refl (r : Reading) : Softer free soft kind n r r
  | pattern : free kind = true → (∀ m ∈ n.declarable, soft m.span) →
    Softer free soft kind n (.pattern .varName) (.pattern .letName)
  | declarator : free kind = true → (∀ c ∈ n.children, c.field = some .name → ∀ m ∈ c.declarable, soft m.span) →
    Softer free soft kind n (.declarator .varName) (.declarator .letName)

/-- What the children of a pattern are read as does not depend on how the names are declared. -/
theorem patternRole_cases (n c : Node) : (∀ how, patternRole how n c = none) ∨
    (∀ how, patternRole how n c = some (pattern how)) ∨ ∀ how, patternRole how n c = some code := by
  cases hk : n.kind
  case objectPattern | arrayPattern | restPattern =>
    by_cases hproper : c.isProper = true <;> simp [patternRole, hk, hproper]
  case pairPattern =>
    by_cases hvalue : c.field = some .value
    · simp [patternRole, hk, hvalue]
    · by_cases hcomputed : c.kind = .computedPropertyName <;> simp [patternRole, hk, hvalue, hcomputed]
  case objectAssignmentPattern | assignmentPattern =>
    by_cases hleft : c.field = some .left <;> simp [patternRole, hk, hleft]
  all_goals simp [patternRole, hk]

namespace Softer

variable {free : ScopeKind → Bool} {soft : Span → Prop} {kind : ScopeKind} {n : Node} {r r' : Reading}

theorem stamp (h : Softer free soft kind n r r') {os os' : List Outline} (ho : Outline.Softens free soft kind os os') :
    Outline.Softens free soft kind (r.stamp os) (r'.stamp os') := by
  cases h with
  | refl r => exact ho.stamp r
  | pattern | declarator => exact ho

theorem settle (h : Softer free soft kind n r r') : Softer free soft kind n (r.settle n.kind) (r'.settle n.kind) := by
  cases h with
  | refl r => exact .refl _
  | pattern hkind hsoft =>
    simp only [Reading.settle]
    split
    · exact .pattern hkind hsoft
    · exact .refl _
  | declarator hkind hsoft => exact .declarator hkind hsoft

end Softer

end Reading

/-- What it takes for the outline to become softer: the chosen declarations start with a keyword, which then reads
`let`, and everything that is read as a name reads as before. -/
structure Rewording (root : Node) (chosen : Node → Bool) (source source' : String) (soft : Span → Prop) : Prop where
  nested : root.IsNested
  isVar : ∀ n : Node, chosen n = true → n.kind = .variableDeclaration
  keyword : ∀ n ∈ root.nodes, chosen n = true → ∃ w rest, n.children = w :: rest ∧ w.kind = .varKeyword ∧
    w.children = [] ∧ (w.field = none ∨ w.field = some .kind) ∧ w.span.start < w.span.stop ∧ w.text source' = "let"
  isSoft : ∀ n ∈ root.nodes, chosen n = true → ∀ d ∈ n.children, d.kind = .variableDeclarator →
    ∀ c ∈ d.children, c.field = some .name → ∀ m ∈ c.declarable, soft m.span
  identifier : ∀ n ∈ root.nodes, n.kind.isIdentifier = true → n.text source' = n.text source
  name : ∀ n ∈ root.nodes, n.kind.construct = .functionDeclaration ∨ n.kind.construct = .functionExpression ∨
    n.kind.construct = .classDeclaration ∨ n.kind.construct = .classExpression →
    ∀ c, n.childByField? .name = some c → c.text source' = c.text source
  kind : ∀ n ∈ root.nodes, n.kind ≠ .variableDeclaration → ∀ c, n.childByField? .kind = some c →
    c.text source' = c.text source

namespace Rewording

variable {root : Node} {chosen : Node → Bool} {source source' : String} {soft : Span → Prop}
  {free : ScopeKind → Bool} {n c : Node}

private theorem declareNode_soften {how : BindingKind} {form : Form} (h : n.text source' = n.text source) :
    Outline.declareNode source' how form (n.soften chosen) = Outline.declareNode source how form n := by
  simp [Outline.declareNode, h]

private theorem referNode_soften {form : Form} (h : n.text source' = n.text source) :
    Outline.referNode source' form (n.soften chosen) = Outline.referNode source form n := by
  simp [Outline.referNode, h]

private theorem kind_of_imported {part : Node} (h : c ∈ Reading.importedBy part) : c.kind = .identifier := by
  unfold Reading.importedBy at h
  split at h
  · rename_i hk
    obtain rfl := List.mem_singleton.1 h
    exact hk
  · simpa using List.find?_some (Option.mem_toList.1 h)
  · obtain ⟨specifier, -, h⟩ := List.mem_filterMap.1 h
    unfold Reading.importedName? at h
    split at h
    · simpa using (Option.filter_eq_some_iff.1 h).2
    · cases h
  · cases h

private theorem kind_of_mem_importedNames (h : c ∈ Reading.importedNames n) : c.kind = .identifier := by
  simp only [Reading.importedNames, List.mem_flatMap] at h
  obtain ⟨clause, -, h⟩ := h
  split at h
  · obtain ⟨part, -, h⟩ := List.mem_flatMap.1 h
    exact kind_of_imported h
  · simpa using List.find?_some (Option.mem_toList.1 h)
  · cases h

/-- A child of a declaration that is no declarator is read as code, as a parameter or as a pattern, if at all. -/
private theorem role_of_declaration {text : String} {r r' : Reading} (hn : n.kind.construct = .declaration)
    (hc : c.kind ≠ .variableDeclarator) (h : r.role text n c = some r') :
    r' = .code ∨ r' = .parameter ∨ ∃ how, r' = .pattern how := by
  cases r with
  | code => simp_all [Reading.role, Reading.codeRole]
  | pattern how =>
    simp only [Reading.role] at h
    rcases Reading.patternRole_cases n c with hrole | hrole | hrole <;> rw [hrole] at h <;> cases h
    · exact .inr (.inr ⟨_, rfl⟩)
    · exact .inl rfl
  | _ =>
    simp only [Reading.role] at h
    repeat' split at h
    all_goals cases h
    all_goals simp

/-- The keyword of a declaration adds nothing. -/
private theorem outlineAs_keyword {text : String} {r : Reading} {w : Node} (hn : n.kind.construct = .declaration)
    (hw : w.kind = .varKeyword ∨ w.kind = .other "let") (hleaf : w.children = []) :
    Node.outlineAs text (r.role text n) w = [] := by
  have hdeclarator : w.kind ≠ .variableDeclarator := by rcases hw with hw | hw <;> rw [hw] <;> decide
  have hconstruct : w.kind.construct = .compound := by rcases hw with hw | hw <;> rw [hw] <;> rfl
  -- in every reading that it may have, the keyword is a leaf of code
  have hcode : w.outline text .code = [] := by
    rw [Node.outline_eq]
    simp [Reading.stamp, Reading.settle, Reading.preamble, Node.outlineName, Reading.readsName, Reading.enclose,
      Reading.scopeKind?, Node.outlineParts, Reading.opening, hconstruct, hleaf]
  have hsettle : ∀ r', r' = .code ∨ r' = .parameter ∨ (∃ how, r' = .pattern how) →
      w.outline text r' = w.outline text .code := by
    rintro r' (rfl | rfl | ⟨how, rfl⟩)
    · rfl
    all_goals
      rw [Node.outline_eq, Node.outline_eq text .code]
      rcases hw with hw | hw <;> rw [hw] <;> rfl
  unfold Node.outlineAs
  cases hrole : r.role text n w with
  | none => rfl
  | some r' =>
    rw [Option.map_some, Option.getD_some, hsettle r' (role_of_declaration hn hdeclarator hrole), hcode]

/-! ### What stays the same about a node -/

section Same

variable (S : Rewording root chosen source source' soft)
include S

/-- Only the two kinds of declarations are ever confused. -/
theorem kind_eq_iff (kind : Kind) (h : kind ≠ .lexicalDeclaration ∧ kind ≠ .variableDeclaration) :
    (n.soften chosen).kind = kind ↔ n.kind = kind := by
  by_cases hn : chosen n = true
  · rw [Node.kind_soften_of_chosen hn, S.isVar n hn]
    exact ⟨fun heq => absurd heq.symm h.1, fun heq => absurd heq.symm h.2⟩
  · rw [Node.kind_soften_of_not hn]

/-- A property of kinds that holds of both kinds of declarations or of neither stays. -/
theorem kind_congr {α : Type} (f : Kind → α) (h : f .lexicalDeclaration = f .variableDeclaration) :
    f (n.soften chosen).kind = f n.kind := by
  by_cases hn : chosen n = true
  · rw [Node.kind_soften_of_chosen hn, S.isVar n hn, h]
  · rw [Node.kind_soften_of_not hn]

private theorem construct_soften (n : Node) : (n.soften chosen).kind.construct = n.kind.construct :=
  S.kind_congr Kind.construct rfl

private theorem settle_soften (r : Reading) (n : Node) : r.settle (n.soften chosen).kind = r.settle n.kind :=
  S.kind_congr r.settle (by cases r <;> rfl)

private theorem scopeKind?_soften (r : Reading) (n : Node) :
    r.scopeKind? (n.soften chosen).kind = r.scopeKind? n.kind :=
  S.kind_congr r.scopeKind? (by cases r <;> rfl)

private theorem isProper_soften (n : Node) : (n.soften chosen).isProper = n.isProper := by
  simp only [Node.isProper, Node.named_soften, ne_eq, S.kind_eq_iff .comment (by decide)]

private theorem childByField?_soften (hn : n ∈ root.nodes) {field : Field} (hfield : field ≠ .kind) :
    (n.soften chosen).childByField? field = (n.childByField? field).map (Node.soften chosen) := by
  by_cases h : chosen n = true
  · obtain ⟨w, rest, hchildren, -, -, hw, -⟩ := S.keyword n hn h
    have hwfield : ¬ w.field = some field := by
      rcases hw with hw | hw <;> rw [hw] <;> simp [hfield.symm]
    unfold Node.childByField?
    rw [Node.children_soften_of_chosen h, hchildren, List.map_cons, List.modifyHead_cons, List.find?_cons,
      List.find?_cons]
    simp [hwfield, hfield.symm]
  · exact Node.childByField?_soften_of_not h field

private theorem childOfKind?_soften (hn : ¬ chosen n = true) {kind : Kind}
    (h : kind ≠ .lexicalDeclaration ∧ kind ≠ .variableDeclaration) :
    (n.soften chosen).childOfKind? kind = (n.childOfKind? kind).map (Node.soften chosen) := by
  unfold Node.childOfKind?
  rw [Node.children_soften_of_not hn, List.find?_map]
  simp [S.kind_eq_iff kind h]

private theorem properChildren_soften (hn : ¬ chosen n = true) :
    (n.soften chosen).properChildren = n.properChildren.map (Node.soften chosen) := by
  unfold Node.properChildren
  rw [Node.children_soften_of_not hn, List.filter_map]
  simp [Function.comp_def, S.isProper_soften]

theorem not_chosen_of_kind (h : n.kind ≠ .variableDeclaration) : ¬ chosen n = true := fun hn => h (S.isVar n hn)

/-! ### What a node adds by itself -/

private theorem importedName?_soften (hn : n ∈ root.nodes) :
    Reading.importedName? (n.soften chosen) = (Reading.importedName? n).map (Node.soften chosen) := by
  unfold Reading.importedName?
  simp only [S.kind_eq_iff .importSpecifier (by decide)]
  split
  · rw [S.childByField?_soften hn (by decide), S.childByField?_soften hn (by decide), ← Option.map_or,
      Option.filter_map]
    simp [Function.comp_def, S.kind_eq_iff .identifier (by decide)]
  · rfl

private theorem importedBy_soften (hn : n ∈ root.nodes) :
    Reading.importedBy (n.soften chosen) = (Reading.importedBy n).map (Node.soften chosen) := by
  by_cases hchosen : chosen n = true
  · simp [Reading.importedBy, Node.kind_soften_of_chosen hchosen, S.isVar n hchosen]
  · unfold Reading.importedBy
    rw [Node.kind_soften_of_not hchosen]
    split
    · rfl
    · rw [S.childOfKind?_soften hchosen (by decide)]
      cases n.childOfKind? .identifier <;> rfl
    · rw [S.properChildren_soften hchosen, List.filterMap_map, List.map_filterMap]
      refine List.filterMap_congr fun c hc => ?_
      exact S.importedName?_soften (Node.mem_nodes_trans (Node.child_mem_nodes (Node.mem_children_of_proper hc)) hn)
    · rfl

private theorem importedNames_soften (hn : n ∈ root.nodes) (hchosen : ¬ chosen n = true) :
    Reading.importedNames (n.soften chosen) = (Reading.importedNames n).map (Node.soften chosen) := by
  unfold Reading.importedNames
  rw [S.properChildren_soften hchosen, List.flatMap_map, List.map_flatMap]
  refine List.flatMap_congr fun clause hclause => ?_
  have hclause' : clause ∈ root.nodes :=
    Node.mem_nodes_trans (Node.child_mem_nodes (Node.mem_children_of_proper hclause)) hn
  by_cases hc : chosen clause = true
  · simp [Node.kind_soften_of_chosen hc, S.isVar clause hc]
  · simp only [Node.kind_soften_of_not hc]
    split
    · rw [S.properChildren_soften hc, List.flatMap_map, List.map_flatMap]
      refine List.flatMap_congr fun part hpart => ?_
      exact S.importedBy_soften
        (Node.mem_nodes_trans (Node.child_mem_nodes (Node.mem_children_of_proper hpart)) hclause')
    · rw [S.childOfKind?_soften hc (by decide)]
      cases clause.childOfKind? .identifier <;> rfl
    · rfl

private theorem exportedBy_soften (hn : n ∈ root.nodes) :
    Reading.exportedBy source' (n.soften chosen) = Reading.exportedBy source n := by
  unfold Reading.exportedBy
  rw [S.childByField?_soften hn (by decide), S.childByField?_soften hn (by decide)]
  cases hname : n.childByField? .name with
  | none => rfl
  | some name =>
    simp only [Option.map_some, S.kind_eq_iff .identifier (by decide), Option.isSome_map]
    split
    · rename_i hk
      have hname' : name ∈ root.nodes :=
        Node.mem_nodes_trans (Node.child_mem_nodes (Node.mem_children_of_field hname)) hn
      exact referNode_soften (S.identifier name hname' (by rw [hk]; rfl))
    · rfl

/-- The name of a function or class is declared as before. -/
private theorem declareName_soften (hn : n ∈ root.nodes) (how : BindingKind)
    (h : n.kind.construct = .functionDeclaration ∨ n.kind.construct = .functionExpression ∨
      n.kind.construct = .classDeclaration ∨ n.kind.construct = .classExpression) :
    (((n.soften chosen).childByField? .name).map (Outline.declareNode source' how .plain)).getD [] =
      ((n.childByField? .name).map (Outline.declareNode source how .plain)).getD [] := by
  rw [S.childByField?_soften hn (by decide)]
  cases hname : n.childByField? .name with
  | none => rfl
  | some c => exact declareNode_soften (S.name n hn h c hname)

private theorem preamble_soften (hn : n ∈ root.nodes) (r : Reading) :
    r.preamble source' (n.soften chosen) = r.preamble source n := by
  unfold Reading.preamble
  rw [S.construct_soften]
  split
  · exact S.declareName_soften hn _ (by simp [*])
  · exact S.declareName_soften hn _ (by simp [*])
  · rfl

/-- In the same reading, a node adds by itself what it added before. -/
private theorem opening_soften (hn : n ∈ root.nodes) {r : Reading} (hr : r.Suits n.kind) :
    r.opening source' (n.soften chosen) = r.opening source n := by
  have hpattern : ∀ how form, n.kind.isIdentifier = true →
      Outline.declareNode source' how form (n.soften chosen) = Outline.declareNode source how form n :=
    fun how form hk => declareNode_soften (S.identifier n hn hk)
  cases r with
  | code =>
    simp only [Reading.opening, S.construct_soften]
    split
    · rename_i form hk
      exact referNode_soften (S.identifier n hn (Reading.isIdentifier_of_construct hk))
    · exact S.declareName_soften hn _ (by simp [*])
    · exact S.declareName_soften hn _ (by simp [*])
    · rename_i hk
      have hchosen : ¬ chosen n = true := by
        intro hchosen
        rw [S.isVar n hchosen] at hk
        cases hk
      rw [S.importedNames_soften hn hchosen, List.flatMap_map]
      refine List.flatMap_congr fun c hc => ?_
      refine declareNode_soften (S.identifier c (Node.mem_nodes_trans (Reading.importedNames_subset hc) hn) ?_)
      rw [kind_of_mem_importedNames hc]
      rfl
    · rfl
  | pattern how =>
    by_cases hchosen : chosen n = true
    · simp [Reading.opening, Node.kind_soften_of_chosen hchosen, S.isVar n hchosen]
    · simp only [Reading.opening, Node.kind_soften_of_not hchosen]
      split
      · exact hpattern _ _ (by simp [*, Kind.isIdentifier])
      · exact hpattern _ _ (by simp [*, Kind.isIdentifier])
      · rfl
  | exportList =>
    have hchosen : ¬ chosen n = true := S.not_chosen_of_kind (by rw [show n.kind = .exportClause from hr]; decide)
    simp only [Reading.opening]
    rw [S.properChildren_soften hchosen, List.flatMap_map]
    refine List.flatMap_congr fun c hc => ?_
    exact S.exportedBy_soften (Node.mem_nodes_trans (Node.child_mem_nodes (Node.mem_children_of_proper hc)) hn)
  | tag =>
    have htext := S.identifier n hn hr
    simp only [Reading.opening, Node.text_soften, htext, referNode_soften htext]
  | typeName => exact hpattern _ _ hr
  | body | parameterList | parameter | declarator _ | exportedDeclaration => rfl

/-! ### How the children are read -/

private theorem readsName_soften (hn : n ∈ root.nodes) (r : Reading) :
    r.readsName (n.soften chosen) = r.readsName n := by
  unfold Reading.readsName
  rw [S.construct_soften, S.childByField?_soften hn (by decide), Option.any_map]
  simp only [S.kind_eq_iff .computedPropertyName (by decide)]

private theorem loopKind?_soften (hn : n ∈ root.nodes) (hkind : n.kind ≠ .variableDeclaration) :
    Reading.loopKind? source' (n.soften chosen) = Reading.loopKind? source n := by
  unfold Reading.loopKind?
  rw [Node.childByField?_soften_of_not (S.not_chosen_of_kind hkind)]
  cases hk : n.childByField? .kind with
  | none => rfl
  | some c => simp [S.kind n hn hkind c hk]

private theorem declaredKind_of_not_chosen (hn : n ∈ root.nodes) (hchosen : ¬ chosen n = true) :
    Reading.declaredKind source' (n.soften chosen) = Reading.declaredKind source n := by
  unfold Reading.declaredKind
  rw [Node.kind_soften_of_not hchosen]
  split
  · rfl
  · rename_i hkind
    have hloop := S.loopKind?_soften hn hkind
    unfold Reading.loopKind? at hloop
    rw [hloop]

private theorem declaredKind_of_chosen (hn : n ∈ root.nodes) (hchosen : chosen n = true) :
    Reading.declaredKind source' (n.soften chosen) = .letName := by
  obtain ⟨w, rest, hchildren, -, -, -, -, htext⟩ := S.keyword n hn hchosen
  unfold Reading.declaredKind Node.childByField?
  rw [Node.kind_soften_of_chosen hchosen, if_neg (by decide), Node.children_soften_of_chosen hchosen, hchildren,
    List.map_cons, List.modifyHead_cons, List.find?_cons]
  simp [htext, BindingKind.ofKeyword]

private theorem patternRole_soften (how : BindingKind) (n c : Node) :
    Reading.patternRole how (n.soften chosen) (c.soften chosen) = Reading.patternRole how n c := by
  by_cases hchosen : chosen n = true
  · simp [Reading.patternRole, Node.kind_soften_of_chosen hchosen, S.isVar n hchosen]
  · simp only [Reading.patternRole, Node.kind_soften_of_not hchosen, S.isProper_soften, Node.field_soften,
      S.kind_eq_iff .computedPropertyName (by decide)]

/-- In the same reading, a child is read as before, unless a chosen declaration declares it. -/
private theorem role_soften (hn : n ∈ root.nodes) {r : Reading} (h : r = .code → ¬ chosen n = true) :
    r.role source' (n.soften chosen) (c.soften chosen) = r.role source n c := by
  cases r with
  | code =>
    have hchosen := h rfl
    simp only [Reading.role, Reading.codeRole, S.construct_soften]
    split
    case h_4 | h_5 | h_6 =>
      simp only [Reading.functionRole, Node.field_soften, S.kind_eq_iff .statementBlock (by decide)]
    case h_11 hk =>
      have hkind : n.kind ≠ .variableDeclaration := by
        intro hvar
        rw [hvar] at hk
        cases hk
      rw [S.loopKind?_soften hn hkind, Node.field_soften]
    case h_13 =>
      rw [S.declaredKind_of_not_chosen hn hchosen]
      simp only [S.kind_eq_iff .variableDeclarator (by decide)]
    case h_14 =>
      simp only [Reading.exportRole, Node.field_soften, S.kind_eq_iff .exportClause (by decide),
        S.kind_eq_iff .namespaceExport (by decide), Node.childByField?_soften_of_not hchosen .source,
        Option.isSome_map]
    all_goals simp only [Node.field_soften, S.kind_eq_iff .identifier (by decide),
      S.kind_eq_iff .typeIdentifier (by decide)]
  | pattern how => exact S.patternRole_soften how n c
  | body | parameterList | parameter | declarator _ | exportedDeclaration | exportList | tag | typeName =>
    simp only [Reading.role, Node.field_soften, S.isProper_soften]

/-- Each child is read as before or, where a chosen declaration declares it, by `let`. -/
private theorem softer_role {kind : ScopeKind} (hn : n ∈ root.nodes) (hc : c ∈ n.children) {r r' : Reading}
    (hr : Reading.Softer free soft kind n r r') (hkind : chosen n = true → free kind = true) :
    Option.Rel (Reading.Softer free soft (r.innerKind n kind) c) (r.role source n c)
      (r'.role source' (n.soften chosen) (c.soften chosen)) := by
  cases hr with
  | refl r =>
    have hsame : ∀ r? : Option Reading, Option.Rel (Reading.Softer free soft (r.innerKind n kind) c) r? r? := by
      intro r?
      cases r? with
      | none => exact .none
      | some r => exact .some (.refl r)
    by_cases h : r = .code ∧ chosen n = true
    · obtain ⟨rfl, hchosen⟩ := h
      have hvar := S.isVar n hchosen
      have hconstruct : n.kind.construct = .declaration := by rw [hvar]; rfl
      have hinner : Reading.code.innerKind n kind = kind := by rw [Reading.innerKind, hvar]; rfl
      have hdeclared : Reading.declaredKind source n = .varName := by rw [Reading.declaredKind, if_pos hvar]
      simp only [Reading.role, Reading.codeRole, S.construct_soften, hconstruct, hinner, hdeclared,
        S.declaredKind_of_chosen hn hchosen, S.kind_eq_iff .variableDeclarator (by decide)]
      split
      · rename_i hdeclarator
        exact .some (.declarator (hkind hchosen) (S.isSoft n hn hchosen c hc hdeclarator))
      · exact .some (.refl _)
    · rw [S.role_soften hn fun hcode hchosen => h ⟨hcode, hchosen⟩]
      exact hsame _
  | pattern hfree hsoft =>
    have hchild : Reading.Softer free soft kind c (.pattern .varName) (.pattern .letName) :=
      .pattern hfree fun m hm => hsoft m (Node.declarable_of_child hc hm)
    simp only [Reading.role, S.patternRole_soften]
    rcases Reading.patternRole_cases n c with h | h | h <;> rw [h, h]
    · exact .none
    · exact .some hchild
    · exact .some (.refl _)
  | declarator hfree hsoft =>
    simp only [Reading.role, Node.field_soften]
    split
    · rename_i hfield
      exact .some (.pattern hfree (hsoft c hc hfield))
    · exact .some (.refl _)

/-! ### The softer outline -/

/-- What a node adds by itself it declares as before, or by `let`. -/
private theorem softens_opening {kind : ScopeKind} (hn : n ∈ root.nodes) {r r' : Reading} (hsuits : r.Suits n.kind)
    (hr : Reading.Softer free soft kind n r r') :
    Outline.Softens free soft (r.innerKind n kind) (r.opening source n) (r'.opening source' (n.soften chosen)) := by
  cases hr with
  | refl r =>
    rw [S.opening_soften hn hsuits]
    exact .refl _ _
  | pattern hfree hsoft =>
    have hsame := S.opening_soften hn (r := .pattern .letName) trivial
    rw [hsame]
    have hdeclare : ∀ form, n.kind = .identifier ∨ n.kind = .shorthandPropertyIdentifierPattern →
        Outline.Softens free soft kind (Outline.declareNode source .varName form n)
          (Outline.declareNode source .letName form n) := by
      intro form hname
      unfold Outline.declareNode
      split
      · exact .nil
      · exact .soften _ _ hfree (hsoft n (Node.mem_declarable.2 ⟨Node.mem_nodes_self n, hname⟩)) .nil
    cases hk : n.kind
    case identifier | shorthandPropertyIdentifierPattern =>
      simp only [Reading.opening, hk]
      exact hdeclare _ (by simp [hk])
    all_goals simp only [Reading.opening, hk]; exact .nil
  | declarator hfree hsoft => exact .nil

/-- The children of a node in their roles. -/
private theorem softens_children {kind : ScopeKind} (hn : n ∈ root.nodes) (r r' : Reading)
    (h : ∀ c ∈ n.children, Outline.Softens free soft kind (Node.outlineAs source (r.role source n) c)
      (Node.outlineAs source' (r'.role source' (n.soften chosen)) (c.soften chosen))) :
    Outline.Softens free soft kind (n.children.flatMap (Node.outlineAs source (r.role source n)))
      ((n.soften chosen).children.flatMap (Node.outlineAs source' (r'.role source' (n.soften chosen)))) := by
  by_cases hchosen : chosen n = true
  · obtain ⟨w, rest, hchildren, hwkind, hleaf, -⟩ := S.keyword n hn hchosen
    have hconstruct : n.kind.construct = .declaration := by rw [S.isVar n hchosen]; rfl
    have hconstruct' : (n.soften chosen).kind.construct = .declaration := by rw [S.construct_soften, hconstruct]
    have hleaf' : (w.soften chosen).asLet.children = [] := by
      have hw : ¬ chosen w = true := S.not_chosen_of_kind (by rw [hwkind]; decide)
      rw [Node.children_asLet, Node.children_soften_of_not hw, hleaf, List.map_nil]
    rw [Node.children_soften_of_chosen hchosen, hchildren, List.map_cons, List.modifyHead_cons, List.flatMap_cons,
      List.flatMap_cons, outlineAs_keyword hconstruct (.inl hwkind) hleaf,
      outlineAs_keyword hconstruct' (.inr (Node.kind_asLet _)) hleaf', List.flatMap_map]
    refine Outline.Softens.append .nil (.flatMap fun c hc => h c ?_)
    rw [hchildren]
    exact List.mem_cons_of_mem w hc
  · rw [Node.children_soften_of_not hchosen, List.flatMap_map]
    exact .flatMap h

private theorem preamble_softer {kind : ScopeKind} (hn : n ∈ root.nodes) {r r' : Reading}
    (hr : Reading.Softer free soft kind n r r') : r'.preamble source' (n.soften chosen) = r.preamble source n := by
  cases hr with
  | refl r => exact S.preamble_soften hn r
  | pattern | declarator => rfl

/-- A computed name is read outside of the region of its method. -/
private theorem softens_name {kind : ScopeKind} (hn : n ∈ root.nodes) {r r' : Reading}
    (hr : Reading.Softer free soft kind n r r')
    (h : r.readsName n = true → ∀ c, n.childByField? .name = some c →
      Outline.Softens free soft kind (c.outline source .code) ((c.soften chosen).outline source' .code)) :
    Outline.Softens free soft kind (n.outlineName source r) ((n.soften chosen).outlineName source' r') := by
  cases hr with
  | refl r =>
    unfold Node.outlineName
    rw [S.readsName_soften hn, S.childByField?_soften hn (by decide)]
    split
    · rename_i hreads
      cases hname : n.childByField? .name with
      | none => exact .nil
      | some c => exact h hreads c hname
    · exact .nil
  | pattern | declarator =>
    simp only [Node.outlineName, Reading.readsName]
    exact .nil

private theorem softens_enclose {kind : ScopeKind} {r r' : Reading} (hr : Reading.Softer free soft kind n r r')
    {parts parts' : List Outline} (h : Outline.Softens free soft (r.innerKind n kind) parts parts') :
    Outline.Softens free soft kind (r.enclose n parts) (r'.enclose (n.soften chosen) parts') := by
  cases hr with
  | refl r =>
    unfold Reading.enclose
    rw [S.scopeKind?_soften, Node.span_soften]
    unfold Reading.innerKind at h
    cases hscope : r.scopeKind? n.kind with
    | none =>
      rw [hscope] at h
      exact h
    | some inner =>
      rw [hscope] at h
      exact .scope inner n.span h .nil
  | pattern | declarator => exact h

end Same

variable {t : Tree} (S : Rewording t.root chosen t.source source' soft)
include S

/-- The outline of the softer tree is the softer outline, if the chosen declarations are read in regions of a kind that
is free for this. -/
theorem softens_outline
    (hfree : ∀ {kind : ScopeKind} {r : Reading} {n : Node}, t.Reads kind r n → chosen n = true → free kind = true)
    (n : Node) : ∀ {r r' : Reading} {kind : ScopeKind}, t.Reads kind r n → r.Suits n.kind →
      Reading.Softer free soft kind n r r' →
      Outline.Softens free soft kind (n.outline t.source r) ((n.soften chosen).outline source' r') := by
  induction n using Node.induction with
  | h label children ih =>
    intro r r' kind hreads hsuits hr
    generalize hnode : Node.mk label children = n at *
    have hchildren : n.children = children := by rw [← hnode]; rfl
    rw [← hchildren] at ih
    have hn := hreads.mem_nodes
    have hsettled := hr.settle
    -- the children, each in its role, inside the region of the node
    have hparts : Outline.Softens free soft ((r.settle n.kind).innerKind n kind)
        (n.outlineParts t.source (r.settle n.kind)) ((n.soften chosen).outlineParts source' (r'.settle n.kind)) := by
      refine (S.softens_opening hn hsuits.settle hsettled).append (S.softens_children hn _ _ fun c hc => ?_)
      have hrole := S.softer_role hn hc hsettled (hfree hreads)
      unfold Node.outlineAs
      generalize hrc : (r.settle n.kind).role t.source n c = rc at hrole ⊢
      generalize (r'.settle n.kind).role source' (n.soften chosen) (c.soften chosen) = rc' at hrole ⊢
      cases hrole with
      | none => exact .nil
      | @some rc _ hsofter => exact ih c hc (.child hreads hc hrc) (Reading.suits_of_role hrc) hsofter
    have hname := S.softens_name hn hsettled fun hname c hc =>
      ih c (Node.mem_children_of_field hc) (.name hreads hname hc) trivial (.refl .code)
    have hpreamble : Outline.Softens free soft kind ((r.settle n.kind).preamble t.source n)
        ((r'.settle n.kind).preamble source' (n.soften chosen)) := by
      rw [S.preamble_softer hn hsettled]
      exact .refl _ _
    rw [Node.outline_eq t.source r n, Node.outline_eq source' r', S.settle_soften]
    exact hr.stamp ((hpreamble.append hname).append (S.softens_enclose hsettled hparts))

/-- The statements of a file are softened one by one. -/
theorem softens_statements
    (hfree : ∀ {kind : ScopeKind} {r : Reading} {n : Node}, t.Reads kind r n → chosen n = true → free kind = true) :
    Outline.Softens free soft .file (Node.outline.outlineAll t.source (fun _ => some .code) t.root.children)
      (Node.outline.outlineAll source' (fun _ => some .code) (t.root.soften chosen).children) := by
  -- the statements of a file are read as those of a function's body are
  have hbody := S.softens_children (Node.mem_nodes_self t.root) .body .body
    fun c hc => S.softens_outline hfree c (.top hc) trivial (.refl .code)
  rw [Node.outlineAll_eq_flatMap, Node.outlineAll_eq_flatMap]
  exact hbody

end Rewording

/-- What it takes for the chosen declarations to become softer without a change of meaning: the words are right, and the
declarations stand directly in a function or the file. -/
structure Softening (root : Node) (chosen : Node → Bool) (source source' : String) (soft : Span → Prop)
    (kindOf : Nat → ScopeKind) : Prop extends Rewording root chosen source source' soft where
  isTop : ∀ n ∈ root.nodes, chosen n = true → (kindOf n.span.start).isFunctionLike = true
  notInName : ∀ n ∈ root.nodes, Reading.code.readsName n = true → ∀ c, n.childByField? .name = some c →
    ∀ m ∈ c.nodes, ¬ chosen m = true

namespace Softening

variable {t : Tree} {chosen : Node → Bool} {source' : String} {soft : Span → Prop} {kind : ScopeKind} {r : Reading}
  {n : Node}
  (S : Softening t.root chosen t.source source' soft fun offset => Region.kindAt .file offset t.outline.regions)
include S

/-- Where a node is read that holds a chosen declaration, the regions of the node decide about the offsets in it. -/
private theorem kindAt_of_reads (h : t.Reads kind r n) : ∀ x ∈ n.nodes, chosen x = true →
    ∀ offset, n.span.holds offset = true → Region.kindAt .file offset t.outline.regions =
      Region.kindAt kind offset (Outline.regions.regionsAll (n.outline t.source r)) := by
  induction h with
  | top hc => exact fun _ _ _ offset hoffset => Tree.kindAt_child S.nested hc hoffset
  | @child kind r r' n c hn hc hrole ih =>
    intro x hx hchosen offset hoffset
    have hnested := S.nested.of_mem hn.mem_nodes
    have hn' : n.span.holds offset = true := Span.holds_of_covers (hnested.covers_child hc) hoffset
    rw [ih x (Node.mem_nodes_of_child hc hx) hchosen offset hn', hnested.kindAt_child hc hoffset kind, Node.outlineAs,
      hrole]
    rfl
  | @name kind r n c hn hreads hname ih =>
    intro x hx hchosen
    have hcode : r.settle n.kind = .code := by
      simp only [Reading.readsName, Bool.and_eq_true, decide_eq_true_eq] at hreads
      exact hreads.1.1
    rw [hcode] at hreads
    exact absurd hchosen (S.notInName n hn.mem_nodes hreads c hname x hx)

/-- A chosen declaration stands directly in a function or the file: the region around it is the one at its start. -/
private theorem isFunctionLike_of_chosen (h : t.Reads kind r n) (hchosen : chosen n = true) :
    kind.isFunctionLike = true := by
  have hn := h.mem_nodes
  obtain ⟨w, rest, hchildren, hwkind, hleaf, -, hbyte, -⟩ := S.keyword n hn hchosen
  have hvar := S.isVar n hchosen
  have hnested := S.nested.of_mem hn
  have hw : w ∈ n.children := by rw [hchildren]; exact List.mem_cons_self
  have hwspan := Span.covers_iff.1 (hnested.covers_child hw)
  have hstart : n.span.holds n.span.start = true := Span.holds_iff.2 ⟨Nat.le_refl _, by omega⟩
  have hconstruct : n.kind.construct = .declaration := by rw [hvar]; rfl
  -- no region of the declaration holds its start, which is the keyword's
  have hnone : ∀ region ∈ Outline.regions.regionsAll (n.outline t.source r),
      ¬ region.span.holds n.span.start = true := by
    intro region hregion hholds
    rw [Node.regionsAll_outline, List.mem_append, List.mem_append] at hregion
    rw [Span.holds_iff] at hholds
    rcases hregion with (hregion | hregion) | hregion
    · simp [Node.outlineName, Reading.readsName, hconstruct] at hregion
    · have hown : (r.settle n.kind).scopeKind? n.kind = none := by
        rw [hvar]
        cases r <;> rfl
      simp [Reading.ownRegion, hown] at hregion
    · obtain ⟨c, hc, hregion⟩ := List.mem_flatMap.1 hregion
      rw [hchildren] at hc
      rcases List.mem_cons.1 hc with rfl | hc
      · rw [Rewording.outlineAs_keyword hconstruct (.inl hwkind) hleaf] at hregion
        cases hregion
      · have hc' : c ∈ n.children := by rw [hchildren]; exact List.mem_cons_of_mem w hc
        have hpair := hnested.pairwise_children
        rw [hchildren] at hpair
        have hafter := List.rel_of_pairwise_cons hpair hc
        have hinside := Span.covers_iff.1 ((hnested.child hc').regionsAll_outlineAs_inside hregion)
        omega
  have hkind := S.kindAt_of_reads h n (Node.mem_nodes_self n) hchosen _ hstart
  rw [Region.kindAt_of_not_holds hnone] at hkind
  rw [← hkind]
  exact S.isTop n hn hchosen

/-- The scope tree of the softer tree differs only in the kinds of bindings. -/
theorem softened_ofTree :
    (ScopeTree.ofTree t).Softened soft (ScopeTree.ofTree ⟨t.root.soften chosen, source', t.dialect⟩) :=
  ScopeTree.softened_ofTree (Node.fullSpan_soften t.root)
    (S.toRewording.softens_statements fun h hchosen => S.isFunctionLike_of_chosen h hchosen)

end Softening

end ScriptTidy
