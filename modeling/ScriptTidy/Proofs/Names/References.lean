import ScriptTidy.Proofs.Names.Identifiers
import ScriptTidy.Proofs.Names.Resolution
import ScriptTidy.Proofs.Names.SofterTree

/-!
# Every reference is an occurrence

Two analyses look for references. The outline descends from statement to statement and reads every node in a way that
depends on where it stands; the list of uses looks at each identifier and the kind of its parent alone. In a tree with
`NamesInPlace` they agree as far as they must: what the outline refers to, the list of uses has as a reference as well
(`Tree.occurs_of_reference`).

The proof goes down the tree with what the readings have in common (`Apt`). In particular a statement that introduces
names is always read as code, and then the outline leaves the names alone that the statement introduces.
-/

namespace ScriptTidy

/-- The kinds of nodes that stand inside of import statements only. -/
def Kind.isImportPiece : Kind → Bool
  | importClause | importSpecifier | namespaceImport | importRequireClause => true
  | _ => false

/-- The kinds of statements that introduce names which the list of uses knows: imports, and declarations of variables
and functions. -/
def Kind.introducesNames (kind : Kind) : Bool :=
  match kind.construct with
  | .importStatement | .declaration | .functionDeclaration => true
  | _ => false

private theorem Kind.construct_of_introducesNames {kind : Kind} (h : kind.introducesNames = false) :
    kind.construct ≠ .importStatement ∧ kind.construct ≠ .declaration ∧ kind.construct ≠ .functionDeclaration := by
  unfold introducesNames at h
  refine ⟨?_, ?_, ?_⟩
  all_goals
    intro hk
    rw [hk] at h
    cases h

private theorem Kind.introducesNames_of_isIdentifier {kind : Kind} (h : kind.isIdentifier = true) :
    kind.introducesNames = false := by
  cases kind <;> first | rfl | cases h

private theorem Role.introducedUnder_cases {kind : Kind} {field : Option Field}
    (h : introducedUnder kind field = true) :
    kind.isImportPiece = true ∨
      field = some .name ∧ (kind = .variableDeclarator ∨ kind.construct = .functionDeclaration) := by
  unfold introducedUnder at h
  split at h
  all_goals first | exact .inl rfl | simp_all [Kind.construct]

namespace Node

/-! ### Outside of import statements -/

/-- The nodes of a tree without those inside of import statements. -/
def outsideImports : Node → List Node
  | mk label children =>
    mk label children :: if label.kind = .importStatement then [] else outsideAll children
where
  outsideAll : List Node → List Node
    | [] => []
    | n :: ns => n.outsideImports ++ outsideAll ns

private theorem outsideAll_eq_flatMap (ns : List Node) : outsideImports.outsideAll ns = ns.flatMap outsideImports := by
  induction ns with
  | nil => rfl
  | cons n ns ih => rw [outsideImports.outsideAll, List.flatMap_cons, ih]

private theorem mem_outsideImports {m n : Node} : m ∈ n.outsideImports ↔
    m = n ∨ n.kind ≠ .importStatement ∧ ∃ c ∈ n.children, m ∈ c.outsideImports := by
  cases n with
  | mk label children =>
    rw [outsideImports, List.mem_cons, outsideAll_eq_flatMap]
    refine or_congr_right ?_
    by_cases hk : label.kind = .importStatement <;> simp [hk, kind, Node.label, Node.children]

private theorem self_mem_outsideImports (n : Node) : n ∈ n.outsideImports := mem_outsideImports.2 (.inl rfl)

private theorem child_mem_outsideImports {n p c : Node} (hp : p ∈ n.outsideImports) (hk : p.kind ≠ .importStatement)
    (hc : c ∈ p.children) : c ∈ n.outsideImports := by
  induction n using Node.induction with
  | h label children ih =>
    rcases mem_outsideImports.1 hp with rfl | ⟨hn, d, hd, hp⟩
    · exact mem_outsideImports.2 (.inr ⟨hk, c, hc, self_mem_outsideImports c⟩)
    · exact mem_outsideImports.2 (.inr ⟨hn, d, hd, ih d hd hp⟩)

private theorem mem_nodes_of_outsideImports {m n : Node} (h : m ∈ n.outsideImports) : m ∈ n.nodes := by
  induction n using Node.induction with
  | h label children ih =>
    rcases mem_outsideImports.1 h with rfl | ⟨-, c, hc, hm⟩
    · exact mem_nodes_self _
    · exact mem_nodes_of_child hc (ih c hc hm)

/-- What the grammars guarantee about where names are introduced. The pieces of imports stand inside of import
statements, and declarators of variables in declarations, where an identifier or a pattern names them. A statement that
introduces names stands in the place of a statement: it is not the whole tree, no list of parameters and no member of a
list of exports. -/
structure NamesInPlace (root : Node) : Prop where
  imports : ∀ m ∈ root.outsideImports, m.kind.isImportPiece = false
  declarators : root.kind ≠ .variableDeclarator ∧ ∀ p ∈ root.nodes, ∀ c ∈ p.children, c.kind = .variableDeclarator →
    p.kind = .lexicalDeclaration ∨ p.kind = .variableDeclaration
  named : ∀ d ∈ root.nodes, d.kind = .variableDeclarator → ∀ c ∈ d.children, c.field = some .name →
    c.kind = .identifier ∨ c.kind = .objectPattern ∨ c.kind = .arrayPattern
  statements : root.kind.introducesNames = false ∧ ∀ p ∈ root.nodes, ∀ c ∈ p.children, c.kind.introducesNames = true →
    c.field ≠ some .parameters ∧ p.kind ≠ .exportClause

instance (root : Node) : Decidable root.NamesInPlace :=
  decidable_of_iff ((∀ m ∈ root.outsideImports, m.kind.isImportPiece = false) ∧
    (root.kind ≠ .variableDeclarator ∧ ∀ p ∈ root.nodes, ∀ c ∈ p.children, c.kind = .variableDeclarator →
      p.kind = .lexicalDeclaration ∨ p.kind = .variableDeclaration) ∧
    (∀ d ∈ root.nodes, d.kind = .variableDeclarator → ∀ c ∈ d.children, c.field = some .name →
      c.kind = .identifier ∨ c.kind = .objectPattern ∨ c.kind = .arrayPattern) ∧
    root.kind.introducesNames = false ∧ ∀ p ∈ root.nodes, ∀ c ∈ p.children, c.kind.introducesNames = true →
      c.field ≠ some .parameters ∧ p.kind ≠ .exportClause)
    ⟨fun ⟨h₁, h₂, h₃, h₄⟩ => ⟨h₁, h₂, h₃, h₄⟩, fun ⟨h₁, h₂, h₃, h₄⟩ => ⟨h₁, h₂, h₃, h₄⟩⟩

namespace NamesInPlace

variable {root p c : Node} (h : root.NamesInPlace)
include h

private theorem construct_of_declarator (hp : p ∈ root.nodes) (hc : c ∈ p.children)
    (hk : c.kind = .variableDeclarator) :
    p.kind.construct = .declaration := by
  rcases h.declarators.2 p hp c hc hk with hk | hk <;> rw [hk] <;> rfl

/-- Outside of import statements, names are introduced by declarators and declarations of functions alone. -/
private theorem introducedUnder_eq_false (hp : p ∈ root.outsideImports) (hdeclarator : p.kind ≠ .variableDeclarator)
    (hfunction : p.kind.construct ≠ .functionDeclaration) (field : Option Field) :
    Role.introducedUnder p.kind field = false := by
  rw [Bool.eq_false_iff]
  intro hintroduced
  rcases Role.introducedUnder_cases hintroduced with hpiece | ⟨-, hk | hk⟩
  · rw [h.imports p hp] at hpiece
    cases hpiece
  · exact hdeclarator hk
  · exact hfunction hk

end NamesInPlace

end Node

namespace Reading

/-! ### How a node is read -/

/-- What has to hold of a node that gets one of these readings. -/
def Demands : Reading → Node → Prop
  | declarator _, n => n.kind = .variableDeclarator
  | parameterList, n => n.field = some .parameters
  | body, n => n.kind = .statementBlock
  | _, _ => True

theorem demands_of_role {source : String} {r r' : Reading} {n c : Node} (h : r.role source n c = some r') :
    r'.Demands c := by
  cases r with
  | code =>
    simp only [role, codeRole] at h
    split at h
    -- a loop over the elements of a collection reads its left side as a pattern or as code
    case h_11 =>
      cases hk : loopKind? source n <;> simp only [hk] at h <;> split at h <;> cases h <;> trivial
    all_goals try simp only [functionRole, exportRole] at h
    all_goals repeat' split at h
    all_goals cases h
    all_goals trivial
  | pattern how =>
    simp only [role, patternRole] at h
    repeat' split at h
    all_goals cases h
    all_goals trivial
  | _ =>
    simp only [role] at h
    repeat' split at h
    all_goals cases h
    all_goals trivial

/-- What is known of a node that is read under a parent: where it stands for a reference, its parent introduces no name
with it; a declarator of a variable is read as one; and a list of parameters introduces no names of its own. -/
structure Apt (p n : Node) (r : Reading) : Prop where
  refers : r.settle n.kind = code ∨ r.settle n.kind = tag → n.kind.isIdentifier = true →
    Role.introducedUnder p.kind n.field = false
  declarator : n.kind = .variableDeclarator → ∃ k, r = .declarator k
  list : r = parameterList → n.kind.introducesNames = false
  demands : r.Demands n
  suits : r.Suits n.kind

variable {root p n c : Node} {r r' : Reading} {source : String}

/-- Statements that introduce names are read as code. -/
private theorem Apt.settle_eq_code (h : Apt p n r) (hk : n.kind.introducesNames = true) : r.settle n.kind = code := by
  cases r with
  | code => rfl
  | body =>
    have hbody : n.kind = .statementBlock := h.demands
    rw [hbody] at hk
    cases hk
  | parameterList =>
    rw [h.list rfl] at hk
    cases hk
  | declarator k =>
    have hdeclarator : n.kind = .variableDeclarator := h.demands
    rw [hdeclarator] at hk
    cases hk
  | exportedDeclaration => rfl
  | exportList =>
    have hlist : n.kind = .exportClause := h.suits
    rw [hlist] at hk
    cases hk
  | parameter | pattern k =>
    unfold Kind.introducesNames at hk
    cases hn : n.kind <;> rw [hn] at hk <;> first | rfl | cases hk
  | tag | typeName =>
    rw [Kind.introducesNames_of_isIdentifier h.suits] at hk
    cases hk

section Step

variable (h : root.NamesInPlace) (hn : n ∈ root.outsideImports) (hapt : Apt p n r) (hc : c ∈ n.children)
include h hn hapt hc

/-- The name that a node introduces is not read, or as a pattern. -/
private theorem not_introduced (hrole : (r.settle n.kind).role source n c = some r')
    (hr' : r'.settle c.kind = code ∨ r'.settle c.kind = tag) :
    Role.introducedUnder n.kind c.field = false := by
  rw [Bool.eq_false_iff]
  intro hintroduced
  rcases Role.introducedUnder_cases hintroduced with hpiece | ⟨hfield, hdeclarator | hfunction⟩
  · rw [h.imports n hn] at hpiece
    cases hpiece
  · -- a declarator is read as one, and its name is an identifier and so a pattern
    obtain ⟨k, rfl⟩ := hapt.declarator hdeclarator
    simp only [settle, role, hfield, if_pos, Option.some.injEq] at hrole
    subst hrole
    rcases h.named n (Node.mem_nodes_of_outsideImports hn) hdeclarator c hc hfield with hck | hck | hck <;>
      simp [hck, settle, isPattern] at hr'
  · have hcode := hapt.settle_eq_code (by simp [Kind.introducesNames, hfunction])
    rw [hcode] at hrole
    simp [role, codeRole, hfunction, functionRole, hfield] at hrole

/-- A child gets a reading that is apt for it, and stands outside of import statements. -/
theorem Apt.child (hrole : (r.settle n.kind).role source n c = some r') :
    c ∈ root.outsideImports ∧ Apt n c r' := by
  have hnroot := Node.mem_nodes_of_outsideImports hn
  have hdemands := demands_of_role hrole
  have himport : n.kind ≠ .importStatement := by
    intro hk
    rw [hapt.settle_eq_code (by rw [hk]; rfl)] at hrole
    simp [role, codeRole, hk, Kind.construct] at hrole
  refine ⟨Node.child_mem_outsideImports hn himport hc, ?_, ?_, ?_, hdemands, suits_of_role hrole⟩
  · exact fun hr' _ => not_introduced h hn hapt hc hrole hr'
  · intro hck
    have hconstruct := h.construct_of_declarator hnroot hc hck
    have hcode := hapt.settle_eq_code (by simp [Kind.introducesNames, hconstruct])
    rw [hcode] at hrole
    simp only [role, codeRole, hconstruct, hck, if_pos, Option.some.injEq] at hrole
    exact ⟨_, hrole.symm⟩
  · rintro rfl
    rw [Bool.eq_false_iff]
    intro hck
    exact (h.statements.2 n hnroot c hc hck).1 hdemands

omit hapt in
/-- A computed name is read as code. -/
theorem Apt.computed (hk : n.kind.construct = .methodLike) : c ∈ root.outsideImports ∧ Apt n c .code := by
  have himport : n.kind ≠ .importStatement := by
    intro himport
    rw [himport] at hk
    cases hk
  refine ⟨Node.child_mem_outsideImports hn himport hc, fun _ _ => ?_, fun hck => ?_, nofun, trivial, trivial⟩
  · refine h.introducedUnder_eq_false hn ?_ ?_ _
    · intro hdeclarator
      rw [hdeclarator] at hk
      cases hk
    · rw [hk]
      nofun
  · rw [h.construct_of_declarator (Node.mem_nodes_of_outsideImports hn) hc hck] at hk
    cases hk

omit hapt in
/-- The members of a list of exports introduce no names. -/
private theorem not_introduced_by_export (hk : n.kind = .exportClause) (field : Option Field) :
    Role.introducedUnder c.kind field = false := by
  have hnroot := Node.mem_nodes_of_outsideImports hn
  have hcout := Node.child_mem_outsideImports hn (by rw [hk]; decide) hc
  refine h.introducedUnder_eq_false hcout ?_ ?_ field
  · intro hdeclarator
    have hconstruct := h.construct_of_declarator hnroot hc hdeclarator
    rw [hk] at hconstruct
    cases hconstruct
  · intro hfunction
    exact (h.statements.2 n hnroot c hc (by simp [Kind.introducesNames, hfunction])).2 hk

end Step

/-! ### What refers -/

open Outline Outline.mentions

variable {name : String} {site : Site}

private theorem not_refers_declareNode {kind : BindingKind} {form : Form} :
    .refers name site ∉ mentionsAll (declareNode source kind form n) := by
  unfold declareNode
  split <;> simp [mentionsAll, mentions]

private theorem of_refers_referNode {form : Form} (h : .refers name site ∈ mentionsAll (referNode source form n)) :
    name = n.text source ∧ site.span = n.span := by
  unfold referNode at h
  split at h
  · cases h
  · simp only [mentionsAll, mentions, List.append_nil, List.mem_singleton, Mention.refers.injEq] at h
    obtain ⟨rfl, rfl⟩ := h
    exact ⟨rfl, rfl⟩

private theorem not_refers_declareChild {kind : BindingKind} {form : Form} {c? : Option Node} :
    .refers name site ∉ mentionsAll ((c?.map (declareNode source kind form)).getD []) := by
  cases c? with
  | none => exact List.not_mem_nil
  | some c => exact not_refers_declareNode

private theorem not_refers_preamble : .refers name site ∉ mentionsAll (r.preamble source n) := by
  unfold preamble
  split
  · exact not_refers_declareChild
  · exact not_refers_declareChild
  · exact List.not_mem_nil

/-- A node refers by itself as an identifier in the place of code or of a tag, and as a list of exports through the
names of its members. -/
private theorem of_refers_opening (h : .refers name site ∈ mentionsAll (r.opening source n)) :
    (name = n.text source ∧ site.span = n.span ∧ (r = code ∧ n.kind.isIdentifier = true ∨ r = tag)) ∨
      r = exportList ∧ ∃ s ∈ n.children, ∃ x ∈ s.children, x.kind = .identifier ∧ name = x.text source ∧
        site.span = x.span := by
  cases r with
  | code =>
    simp only [opening] at h
    split at h
    · rename_i form hform
      obtain ⟨hname, hspan⟩ := of_refers_referNode h
      exact .inl ⟨hname, hspan, .inl ⟨rfl, isIdentifier_of_construct hform⟩⟩
    · exact absurd h not_refers_declareChild
    · exact absurd h not_refers_declareChild
    · rw [mentionsAll_flatMap] at h
      obtain ⟨c, -, hc⟩ := List.mem_flatMap.1 h
      exact absurd hc not_refers_declareNode
    · cases h
  | pattern k =>
    simp only [opening] at h
    split at h
    · exact absurd h not_refers_declareNode
    · exact absurd h not_refers_declareNode
    · cases h
  | exportList =>
    rw [opening, mentionsAll_flatMap] at h
    obtain ⟨s, hs, hmem⟩ := List.mem_flatMap.1 h
    unfold exportedBy at hmem
    split at hmem
    · rename_i x hx
      split at hmem
      · rename_i hk
        obtain ⟨hname, hspan⟩ := of_refers_referNode hmem
        exact .inr ⟨rfl, s, Node.mem_children_of_proper hs, x, Node.mem_children_of_field hx, hk, hname, hspan⟩
      · cases hmem
    · cases hmem
  | tag =>
    simp only [opening] at h
    split at h
    · cases h
    · obtain ⟨hname, hspan⟩ := of_refers_referNode h
      exact .inl ⟨hname, hspan, .inr rfl⟩
  | typeName => exact absurd h not_refers_declareNode
  | body | parameterList | parameter | declarator _ | exportedDeclaration => cases h

end Reading

/-! ### The list of uses -/

private theorem Usage.occurrence?_of_refers {source : String} {n p : Node} (hk : n.kind.isIdentifier = true)
    (hp : Role.introducedUnder p.kind n.field = false) :
    occurrence? source ⟨n, some p⟩ = some ⟨n.text source, n.span, .refers⟩ := by
  simp [occurrence?, hk, Role.ofVisit, hp]

namespace Node

private theorem visit_mem_visits (parent : Option Node) (n : Node) : ⟨n, parent⟩ ∈ n.visits parent := by
  rw [visits_eq]
  exact List.mem_cons_self

private theorem visits_of_child {n c : Node} (hc : c ∈ n.children) {parent : Option Node} {v : Visit}
    (hv : v ∈ c.visits (some n)) : v ∈ n.visits parent := by
  rw [visits_eq]
  exact List.mem_cons_of_mem _ (List.mem_flatMap.2 ⟨c, hc, hv⟩)

/-- What the outline of a node refers to, a walk over the node meets as a reference. -/
private theorem NamesInPlace.occurs {root : Node} (h : root.NamesInPlace) {source name : String} {site : Site}
    (n : Node) :
    n ∈ root.outsideImports → ∀ {p : Node} {r : Reading}, Reading.Apt p n r →
      .refers name site ∈ Outline.mentions.mentionsAll (n.outline source r) →
      ∃ v ∈ n.visits (some p), Usage.occurrence? source v = some ⟨name, site.span, .refers⟩ := by
  induction n using Node.induction with
  | h label children ih =>
    intro hn p r hapt hmem
    generalize hnode : Node.mk label children = n at *
    have hchildren : n.children = children := by rw [← hnode]; rfl
    rw [← hchildren] at ih
    rw [outline_eq, Outline.mentionsAll_stamp, Outline.mentionsAll_append, Outline.mentionsAll_append,
      Outline.mentionsAll_enclose, outlineParts, Outline.mentionsAll_append, Outline.mentionsAll_flatMap] at hmem
    rcases List.mem_append.1 hmem with hmem | hmem
    · rcases List.mem_append.1 hmem with hmem | hmem
      · exact absurd hmem Reading.not_refers_preamble
      · -- the computed name of a method
        unfold outlineName at hmem
        split at hmem
        · rename_i hreads
          simp only [Reading.readsName, Bool.and_eq_true, decide_eq_true_eq] at hreads
          cases hname : n.childByField? .name with
          | none =>
            rw [hname] at hmem
            cases hmem
          | some c =>
            rw [hname] at hmem
            have hc := mem_children_of_field hname
            obtain ⟨hcout, hcapt⟩ := Reading.Apt.computed h hn hc hreads.1.2
            obtain ⟨v, hv, hoccurs⟩ := ih c hc hcout hcapt hmem
            exact ⟨v, visits_of_child hc hv, hoccurs⟩
        · cases hmem
    · rcases List.mem_append.1 hmem with hmem | hmem
      · rcases Reading.of_refers_opening hmem with ⟨rfl, hspan, hr⟩ | ⟨hr, s, hs, x, hx, hk, rfl, hspan⟩
        · -- the node itself, which is an identifier
          have hk : n.kind.isIdentifier = true := by
            rcases hr with ⟨-, hk⟩ | htag
            · exact hk
            · have hsuits := hapt.suits.settle
              rw [htag] at hsuits
              exact hsuits
          rw [hspan]
          refine ⟨_, visit_mem_visits _ n, Usage.occurrence?_of_refers hk ?_⟩
          exact hapt.refers (hr.imp_left And.left) hk
        · -- the name of a member of a list of exports
          have hlist : n.kind = .exportClause := by
            have hsuits := hapt.suits.settle
            rw [hr] at hsuits
            exact hsuits
          rw [hspan]
          refine ⟨_, visits_of_child hs (visits_of_child hx (visit_mem_visits _ x)), ?_⟩
          exact Usage.occurrence?_of_refers (by rw [hk]; rfl) (Reading.not_introduced_by_export h hn hs hlist x.field)
      · obtain ⟨c, hc, hmem⟩ := List.mem_flatMap.1 hmem
        unfold outlineAs at hmem
        cases hrole : (r.settle n.kind).role source n c with
        | none =>
          rw [hrole] at hmem
          cases hmem
        | some r' =>
          rw [hrole] at hmem
          obtain ⟨hcout, hcapt⟩ := hapt.child h hn hc hrole
          obtain ⟨v, hv, hoccurs⟩ := ih c hc hcout hcapt hmem
          exact ⟨v, visits_of_child hc hv, hoccurs⟩

end Node

/-- Every reference of the scope tree is a reference of the list of uses, with the same name and the same place. -/
theorem Tree.occurs_of_reference {t : Tree} (h : t.root.NamesInPlace) {r : Reference}
    (hr : r ∈ (ScopeTree.ofTree t).references) :
    ⟨r.name, r.site.span, .refers⟩ ∈ (Usage.ofTree t).occurrences := by
  obtain ⟨r₀, hr₀, rfl⟩ := Array.mem_map.1 hr
  obtain ⟨k, hk⟩ := Array.getElem?_of_mem hr₀
  have hmention := (ScopeRecord.sound_outline t).references_mentioned hk
  rw [Tree.outline, Outline.mentions, Node.outlineAll_eq_flatMap, Outline.mentionsAll_flatMap] at hmention
  obtain ⟨c, hc, hmem⟩ := List.mem_flatMap.1 hmention
  -- the children of the root are read as code, and the root introduces no names
  have hself := Node.self_mem_outsideImports t.root
  obtain ⟨himport, hdeclaration, hfunction⟩ := Kind.construct_of_introducesNames h.statements.1
  have hout : c ∈ t.root.outsideImports := by
    refine Node.child_mem_outsideImports hself (fun hk => himport ?_) hc
    rw [hk]
    rfl
  have hapt : Reading.Apt t.root c .code := by
    refine ⟨fun _ _ => ?_, fun hck => ?_, fun h => (by cases h), trivial, trivial⟩
    · exact h.introducedUnder_eq_false hself h.declarators.1 hfunction _
    · exact absurd (h.construct_of_declarator (Node.mem_nodes_self _) hc hck) hdeclaration
  obtain ⟨v, hv, hoccurs⟩ := h.occurs c hout hapt hmem
  refine List.mem_filterMap.2 ⟨v, ?_, hoccurs⟩
  rw [Node.walk_eq_visits]
  exact Node.visits_of_child hc hv

private theorem Scope.Means.exists_lookup {scopes : Array Scope} {name : String} {scope id : Nat} {meaning : Option Nat}
    (h : Means scopes name scope meaning) (hid : meaning = some id) :
    ∃ (k : Nat) (s : Scope), scopes[k]? = some s ∧ s.lookup name = some id := by
  induction h with
  | here hs hlookup =>
    cases hid
    exact ⟨_, _, hs, hlookup⟩
  | outwards _ _ _ _ ih => exact ih hid
  | nowhere => cases hid

namespace ScopeTree

variable {t : Tree} {r : Reference}

/-- A reference goes by the name of the binding that it means. -/
theorem exists_binding_of_reference (hr : r ∈ (ofTree t).references) {id : Nat} (hid : r.binding = some id) :
    ∃ b, (ofTree t).bindings[id]? = some b ∧ b.name = r.name := by
  obtain ⟨k, hk⟩ := Array.getElem?_of_mem hr
  obtain ⟨-, -, hmeans⟩ := reference_ofTree hk
  obtain ⟨scope, s, hs, hlookup⟩ := hmeans.exists_lookup hid
  obtain ⟨b, hb, -, hname⟩ := ((ScopeRecord.sound_outline t).lookup_iff hs r.name id).1 hlookup
  exact ⟨b, hb, hname⟩

theorem name_of_reference (hr : r ∈ (ofTree t).references) {id : Nat} {b : Binding} (hid : r.binding = some id)
    (hb : (ofTree t).bindings[id]? = some b) : r.name = b.name := by
  obtain ⟨b', hb', hname⟩ := exists_binding_of_reference hr hid
  obtain rfl : b = b' := Option.some.inj (hb.symm.trans hb')
  exact hname.symm

/-- Where a binding is declared, its name stands. -/
theorem slice_of_site {id : Nat} {b : Binding} (hb : (ofTree t).bindings[id]? = some b) {site : Site}
    (hsite : site ∈ b.sites) : slice t.source site.span = b.name := by
  obtain ⟨kind, hmention⟩ := (ScopeRecord.sound_outline t).sites_mentioned hb site hsite
  obtain ⟨m, -, hspan, htext⟩ := mentions_outline hmention
  rw [← htext, ← hspan]
  rfl

/-- Where a name is referred to, it stands. -/
theorem slice_of_reference (hr : r ∈ (ofTree t).references) : slice t.source r.site.span = r.name := by
  obtain ⟨k, hk⟩ := Array.getElem?_of_mem hr
  simp only [ofTree, ofRecord, Array.getElem?_map, Option.map_eq_some_iff] at hk
  obtain ⟨r₀, hr₀, rfl⟩ := hk
  obtain ⟨m, -, -, hspan, htext⟩ := mentions_outline ((ScopeRecord.sound_outline t).references_mentioned hr₀)
  rw [← htext, ← hspan]
  rfl

end ScopeTree

/-- The name of a binding with a reference is referred to in the list of uses. -/
theorem Tree.isReferenced_of_referencesTo {t : Tree} (h : t.root.NamesInPlace) {id : Nat} {b : Binding}
    (hb : (ScopeTree.ofTree t).bindings[id]? = some b) (hused : (ScopeTree.ofTree t).referencesTo id ≠ []) :
    (Usage.ofTree t).isReferenced b.name = true := by
  obtain ⟨r, hr⟩ := List.exists_mem_of_ne_nil _ hused
  rw [ScopeTree.referencesTo_ofTree (Array.getElem?_eq_some_iff.1 hb).1] at hr
  obtain ⟨hr, hid⟩ := List.mem_filter.1 hr
  have hr' := Array.mem_toList_iff.1 hr
  have hname := ScopeTree.name_of_reference hr' (by simpa using hid) hb
  have hoccurs : ⟨r.name, r.site.span, .refers⟩ ∈ (Usage.ofTree t).referencesTo b.name := by
    rw [Usage.ofTree, Usage.referencesTo_ofOccurrences]
    exact List.mem_filter.2 ⟨occurs_of_reference h hr', by simp [Usage.refersTo, hname]⟩
  exact Usage.isReferenced_ofOccurrences_iff.2 (List.ne_nil_of_mem hoccurs)

end ScriptTidy
