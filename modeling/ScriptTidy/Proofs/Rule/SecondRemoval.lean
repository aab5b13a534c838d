import ScriptTidy.Proofs.Names.PrunedTree
import ScriptTidy.Proofs.Rule.Settled
import ScriptTidy.Proofs.Rule.UnusedVariables

/-!
# Nothing is left for a second removal

`remainder` is the tree without the variables that go, and without the statements all of whose variables go. All of that
lies inside of what the rule deletes (`covered_of_dropped`). Outside of the variables that go, such a statement holds no
names (`Tree.VariablesInPlace`, `Tree.IsUndecorated`). So the outline of the remainder is the outline of the whole tree
without some parts, which declare for the regions around them only by `var` or what goes itself (`prunable`,
`outline_remainder`).

Therefore a binding that may go in the remainder may go in the whole tree as well, where it stays
(`exists_removable`), so that something outside of all that goes refers to it. That reference is left, and means in the
remainder what is left of the binding. The exception is a binding that counts as exported because of a declaration that
goes: another declaration of it, which is not exported, may go when the rule is applied again
(`second_removal_takes_static_variable`). `ExportsStay` excludes that.
-/

namespace ScriptTidy

namespace Node

/-- All that a node declares for the regions around it, it declares by `var`. -/
def DeclaresByVar (source : String) (n : Node) : Prop :=
  ∀ o ∈ n.outline source .code, o.DeclaresOnly fun how _ => how = .varName

instance (source : String) (n : Node) : Decidable (n.DeclaresByVar source) :=
  inferInstanceAs (Decidable (∀ o ∈ n.outline source .code, ∀ e ∈ o.entries (fun _ => true) true, e.kind = .varName))

theorem IsDeclaration.construct {n : Node} (h : n.IsDeclaration) : n.kind.construct = .declaration := by
  rcases h with hk | hk <;>
  · rw [hk]
    rfl

end Node

/-- What the grammars guarantee about the places of variables: statements and declarators are no names, no parameters
and no parts of an export clause; a declarator has one name, and what stands beside it, the initial value above all,
declares for the regions around it by `var` only, as a static block of a class may do; a declaration holds its
declarators, and an exported declaration stands by itself behind its decorators, with nothing but keywords, signs and
comments around them. -/
structure Tree.VariablesInPlace (t : Tree) : Prop where
  nested : t.root.IsNested
  fields : ∀ n ∈ t.root.nodes, ∀ c ∈ n.children, c.kind.holdsVariables = true →
    c.field ∉ [some .name, some .kind, some .source, some .asName, some .parameters]
  exportClause : ∀ n ∈ t.root.nodes, n.kind = .exportClause → ∀ c ∈ n.children, c.kind.holdsVariables = false
  declarator : ∀ n ∈ t.root.nodes, n.kind = .variableDeclarator →
    n.children.Pairwise (fun a b => ¬ (a.field = some .name ∧ b.field = some .name)) ∧
      ∀ c ∈ n.children, c.field = some .name ∨ c.DeclaresByVar t.source
  declaration : ∀ n ∈ t.root.nodes, n.IsDeclaration → ∀ c ∈ n.children, c.kind = .variableDeclarator ∨ c.IsToken
  exportStatement : ∀ n ∈ t.root.nodes, n.IsExportedDeclaration →
    n.children.Pairwise (fun a b => ¬ (a.IsDeclaration ∧ b.IsDeclaration)) ∧
      ∀ c ∈ n.children, c.IsDeclaration ∨ c.kind = .decorator ∨ c.IsToken

set_option synthInstance.maxSize 256 in
instance (t : Tree) : Decidable t.VariablesInPlace :=
  decidable_of_iff (t.root.IsNested ∧
    (∀ n ∈ t.root.nodes, ∀ c ∈ n.children, c.kind.holdsVariables = true →
      c.field ∉ [some .name, some .kind, some .source, some .asName, some .parameters]) ∧
    (∀ n ∈ t.root.nodes, n.kind = .exportClause → ∀ c ∈ n.children, c.kind.holdsVariables = false) ∧
    (∀ n ∈ t.root.nodes, n.kind = .variableDeclarator →
      n.children.Pairwise (fun a b => ¬ (a.field = some .name ∧ b.field = some .name)) ∧
        ∀ c ∈ n.children, c.field = some .name ∨ c.DeclaresByVar t.source) ∧
    (∀ n ∈ t.root.nodes, n.IsDeclaration → ∀ c ∈ n.children, c.kind = .variableDeclarator ∨ c.IsToken) ∧
    ∀ n ∈ t.root.nodes, n.IsExportedDeclaration →
      n.children.Pairwise (fun a b => ¬ (a.IsDeclaration ∧ b.IsDeclaration)) ∧
        ∀ c ∈ n.children, c.IsDeclaration ∨ c.kind = .decorator ∨ c.IsToken)
    ⟨fun ⟨h₁, h₂, h₃, h₄, h₅, h₆⟩ => ⟨h₁, h₂, h₃, h₄, h₅, h₆⟩, fun ⟨h₁, h₂, h₃, h₄, h₅, h₆⟩ => ⟨h₁, h₂, h₃, h₄, h₅, h₆⟩⟩

/-- No exported declaration of variables has a decorator. -/
def Tree.IsUndecorated (t : Tree) : Prop :=
  ∀ n ∈ t.root.nodes, n.IsExportedDeclaration → ∀ c ∈ n.children, c.kind ≠ .decorator

instance (t : Tree) : Decidable t.IsUndecorated :=
  inferInstanceAs (Decidable (∀ n ∈ t.root.nodes, n.IsExportedDeclaration → ∀ c ∈ n.children, c.kind ≠ .decorator))

namespace UnusedVariables

variable {f : Facts} {gone : List Nat}

/-- All variables of the statement go. -/
def Statement.goes (gone : List Nat) (s : Statement) : Bool :=
  !s.declarators.isEmpty && s.declarators.all (·.goes gone)

/-- A child goes as a variable of a declaration, as a declaration all of whose variables go, or as the export statement
of one. -/
def dropped (f : Facts) (gone : List Nat) (v : Node.Visit) (c : Node) : Bool :=
  (statement? f v).isSome && c.kind = .variableDeclarator && (declarator f c).goes gone ||
    (statement? f ⟨c, some v.node⟩).any (·.goes gone) ||
    c.kind = .exportStatement && c.children.any fun d => (statement? f ⟨d, some c⟩).any (·.goes gone)

/-- The bindings of a file that go. -/
def goneFrom (f : Facts) : List Nat := removed f.scopes.referencesTo (candidates (statements f))

/-- The tree without the variables that go, and without the statements all of whose variables go. -/
def remainder (f : Facts) : Tree := { f.tree with root := f.tree.root.prune (dropped f (goneFrom f)) none }

private theorem removableBinding?_eq_some {m : Node} {id : Nat} : removableBinding? f m = some id ↔
    (m.kind = .identifier ∧ f.settings.ignores (m.text f.tree.source) = false) ∧ f.scopes.bindingAt? m.span = some id ∧
      ∃ b, f.scopes.bindings[id]? = some b ∧ b.kind.isVariable = true ∧
        (b.exported && f.settings.keepExported) = false := by
  unfold removableBinding?
  split
  · rename_i h
    simp only [Option.filter_eq_some_iff, Option.any_eq_true, Bool.and_eq_true, Bool.not_eq_true', h, and_self,
      true_and]
  · rename_i h
    simp [h]

/-- It is declared by `var`, or its binding is one that the rule may take out. -/
def MayGoAs (f : Facts) (how : BindingKind) (p : Span) : Prop :=
  how = .varName ∨ ∃ m id, removableBinding? f m = some id ∧ m.span = p

/-! ### How the nodes are read that go -/

private theorem dropped_cases {v : Node.Visit} {c : Node} (h : dropped f gone v c = true) :
    (∃ s, statement? f v = some s ∧ c.kind = .variableDeclarator ∧ (declarator f c).goes gone = true) ∨
    (∃ s, statement? f ⟨c, some v.node⟩ = some s ∧ s.goes gone = true) ∨
    (c.kind = .exportStatement ∧ ∃ d ∈ c.children, ∃ s, statement? f ⟨d, some c⟩ = some s ∧ s.goes gone = true) := by
  simp only [dropped, Bool.or_eq_true, Bool.and_eq_true, decide_eq_true_eq, Option.isSome_iff_exists,
    Option.any_eq_true, List.any_eq_true] at h
  rcases h with (⟨⟨⟨s, hs⟩, hk⟩, hgoes⟩ | ⟨s, hs, hgoes⟩) | ⟨hk, d, hd, s, hs, hgoes⟩
  · exact .inl ⟨s, hs, hk, hgoes⟩
  · exact .inr (.inl ⟨s, hs, hgoes⟩)
  · exact .inr (.inr ⟨hk, d, hd, s, hs, hgoes⟩)

private theorem declarator_mem_of_statement? {v : Node.Visit} {s : Statement} (hs : statement? f v = some s) {c : Node}
    (hc : c ∈ v.node.children) (hk : c.kind = .variableDeclarator) : declarator f c ∈ s.declarators := by
  obtain ⟨-, p, -, -, rfl⟩ := statement?_eq_some.1 hs
  exact List.mem_map_of_mem (Node.mem_declarators.2 ⟨hc, hk⟩)

private theorem holdsVariables_of_dropped {v : Node.Visit} {c : Node} (h : dropped f gone v c = true) :
    c.kind.holdsVariables = true := by
  rcases dropped_cases h with ⟨-, -, hk, -⟩ | ⟨s, hs, -⟩ | ⟨hk, -⟩
  · rw [hk]
    rfl
  · rcases (statement?_eq_some.1 hs).1 with hk | hk <;>
    · dsimp only at hk
      rw [hk]
      rfl
  · rw [hk]
    rfl

/-! ### What goes is deleted -/

private theorem edits_of_statement_goes {s : Statement} (h : s.goes gone = true) :
    (proposeFor gone s).edits = [.delete s.outer.fullSpan] := by
  simp only [Statement.goes, Bool.and_eq_true, Bool.not_eq_true', List.all_eq_true] at h
  have hall : s.declarators.filter (·.goes gone) = s.declarators := List.filter_eq_self.2 h.2
  simp [proposeFor, hall, h.1]

private theorem covered_of_statement_goes (hnested : f.tree.root.IsNested) (hplaced : f.tree.root.IsPlaced)
    {s : Statement} (hs : s ∈ statements f) (hgoes : s.goes gone = true) {c : Node} (hc : c ∈ s.outer.nodes) :
    ∃ r, .delete r ∈ (proposeFor gone s).edits ∧ r.covers c.span = true := by
  obtain ⟨D, hD⟩ := exists_declares hs
  refine ⟨s.outer.fullSpan, by simp [edits_of_statement_goes hgoes], ?_⟩
  exact Span.covers_trans ((hplaced.of_mem hD.outer_mem).covers_span) ((hnested.of_mem hD.outer_mem).covers hc)

/-- What the remainder leaves out lies inside of what the rule deletes. -/
theorem covered_of_dropped (horder : f.tree.root.DeclaresInOrder) (hplaced : f.tree.root.IsPlaced) {v : Node.Visit}
    (hv : v ∈ f.tree.root.walk) {c : Node} (hc : c ∈ v.node.children) (hdrop : dropped f (goneFrom f) v c = true) :
    ∃ r, .delete r ∈ (propose f).edits ∧ r.covers c.span = true := by
  suffices ∃ s ∈ statements f, ∃ r, .delete r ∈ (proposeFor (goneFrom f) s).edits ∧ r.covers c.span = true by
    obtain ⟨s, hs, r, hr, hcovers⟩ := this
    refine ⟨r, ?_, hcovers⟩
    simp only [propose, Proposal.edits_concat, List.flatMap_map, List.mem_flatMap]
    exact ⟨s, hs, hr⟩
  have hcwalk : ⟨c, some v.node⟩ ∈ f.tree.root.walk := Node.child_mem_walk hv hc
  rcases dropped_cases hdrop with ⟨s, hs, hk, hgoes⟩ | ⟨s, hs, hgoes⟩ | ⟨hk, D, hD, s, hs, hgoes⟩
  · have hmem : s ∈ statements f := List.mem_filterMap.2 ⟨v, hv, hs⟩
    exact ⟨s, hmem, covered_of_goes horder hplaced hmem (declarator_mem_of_statement? hs hc hk) hgoes⟩
  · have hmem : s ∈ statements f := List.mem_filterMap.2 ⟨_, hcwalk, hs⟩
    refine ⟨s, hmem, covered_of_statement_goes horder.nested hplaced hmem hgoes ?_⟩
    obtain ⟨-, p, hp, -, rfl⟩ := statement?_eq_some.1 hs
    obtain rfl : v.node = p := Option.some.inj hp
    dsimp only
    split
    · exact Node.child_mem_nodes hc
    · exact Node.mem_nodes_self _
  · have hmem : s ∈ statements f := List.mem_filterMap.2 ⟨_, Node.child_mem_walk hcwalk hD, hs⟩
    refine ⟨s, hmem, covered_of_statement_goes horder.nested hplaced hmem hgoes ?_⟩
    obtain ⟨-, p, hp, -, rfl⟩ := statement?_eq_some.1 hs
    obtain rfl : c = p := Option.some.inj hp
    simp [hk, Node.mem_nodes_self]

/-! ### The outline of what goes -/

/-- A variable that goes stands around the place. -/
def GoesAround (f : Facts) (gone : List Nat) (p : Span) : Prop :=
  ∃ c ∈ candidates (statements f), c.binding ∈ gone ∧ c.span.covers p = true

/-- The outline of something that goes: it declares only what goes, or by `var`, and all the names in it stand in
variables that go. -/
structure IsLost (f : Facts) (gone : List Nat) (o : Outline) : Prop where
  declares : o.DeclaresOnly (MayGoAs f)
  inside : ∀ p ∈ Outline.places [o], GoesAround f gone p

private theorem isLost_stamp {os : List Outline} (h : ∀ o ∈ os, IsLost f gone o) (r : Reading) :
    ∀ o ∈ r.stamp os, IsLost f gone o := by
  have hdeclares := Outline.declaresOnly_stamp (fun o ho => (h o ho).declares) r
  refine fun o ho => ⟨hdeclares o ho, fun p hp => ?_⟩
  have hplace : p ∈ Outline.places (r.stamp os) := Outline.mem_places.2 ⟨o, ho, hp⟩
  rw [Outline.places_stamp] at hplace
  obtain ⟨o', ho', hp'⟩ := Outline.mem_places.1 hplace
  exact (h o' ho').inside p hp'

/-- A variable that goes is a candidate. -/
private theorem exists_candidate {s : Statement} (hs : s ∈ statements f) {x : Declarator} (hx : x ∈ s.declarators)
    (hgoes : x.goes gone = true) : ∃ id, x.binding? = some id ∧ id ∈ gone ∧
      (⟨id, x.node.span⟩ : Candidate) ∈ candidates (statements f) := by
  obtain ⟨id, hid, hmem⟩ := (Option.any_eq_true _ _).1 hgoes
  refine ⟨id, hid, by simpa using hmem, List.mem_filterMap.2 ⟨x, List.mem_flatMap.2 ⟨s, hs, hx⟩, ?_⟩⟩
  simp [Declarator.candidate?, hid]

/-- A child of a declarator is read as code, but its name may be read as a pattern. -/
private theorem outlineAs_of_declarator (source : String) {d : Node} (hk : d.kind = .variableDeclarator) {r : Reading}
    (hr : r.settle d.kind = .code ∨ ∃ how, r = .declarator how) (c : Node) :
    Node.outlineAs source ((r.settle d.kind).role source d) c = c.outline source .code ∨
      c.field = some .name ∧
        ∃ how, Node.outlineAs source ((r.settle d.kind).role source d) c = c.outline source (.pattern how) := by
  rcases hr with hr | ⟨how, rfl⟩
  · rw [hr]
    simp [Node.outlineAs, Reading.role, Reading.codeRole, hk, Kind.construct]
  · by_cases hname : c.field = some .name
    · exact .inr ⟨hname, how, by simp [Node.outlineAs, Reading.settle, Reading.role, hname]⟩
    · exact .inl (by simp [Node.outlineAs, Reading.settle, Reading.role, hname])

/-- The name of a declarator that goes declares nothing but itself. -/
private theorem declaresOnly_name {m : Node} (hm : m.kind = .identifier) (h : ∀ how, MayGoAs f how m.span) :
    (∀ o ∈ m.outline f.tree.source .code, o.DeclaresOnly (MayGoAs f)) ∧
      ∀ how, ∀ o ∈ m.outline f.tree.source (.pattern how), o.DeclaresOnly (MayGoAs f) := by
  obtain ⟨hcode, hpattern⟩ := Node.outline_of_identifier f.tree.source hm
  constructor
  · intro o ho e he
    rw [hcode, Outline.referNode] at ho
    split at ho
    · cases ho
    · rw [List.mem_singleton.1 ho] at he
      cases he
  · intro how o ho e he
    rw [hpattern, Outline.declareNode] at ho
    split at ho
    · cases ho
    · rw [List.mem_singleton.1 ho] at he
      rw [List.mem_singleton.1 he]
      exact h how

section Lost

variable (ht : f.tree.VariablesInPlace)
include ht

/-- A variable that goes declares its name, and what its initial value declares by `var`. -/
private theorem declaresOnly_declarator {d : Node} (hd : d ∈ f.tree.root.nodes) (hk : d.kind = .variableDeclarator)
    (hgoes : (declarator f d).goes gone = true) {r : Reading}
    (hr : r.settle d.kind = .code ∨ ∃ how, r = .declarator how) :
    ∀ o ∈ d.outline f.tree.source r, o.DeclaresOnly (MayGoAs f) := by
  obtain ⟨id, hid, -⟩ := (Option.any_eq_true _ _).1 hgoes
  obtain ⟨m, hm, hremovable⟩ := Option.bind_eq_some_iff.1 hid
  have hfield : m.field = some .name := by simpa using List.find?_some hm
  have hname := declaresOnly_name (removableBinding?_eq_some.1 hremovable).1.1 fun _ => .inr ⟨m, id, hremovable, rfl⟩
  obtain ⟨huniq, hchildren⟩ := ht.declarator d hd hk
  have hplain : d.kind.construct.isPlain = true := by
    rw [hk]
    rfl
  rw [Node.outline_of_isPlain hplain hr]
  refine Outline.declaresOnly_stamp (fun o ho => ?_) r
  obtain ⟨c, hc, ho⟩ := List.mem_flatMap.1 ho
  have hread := outlineAs_of_declarator f.tree.source hk hr c
  by_cases hcname : c.field = some .name
  · obtain rfl : c = m := eq_of_not_both huniq hc (Node.mem_children_of_field hm) hcname hfield
    rcases hread with heq | ⟨-, how, heq⟩
    · exact hname.1 o (heq ▸ ho)
    · exact hname.2 how o (heq ▸ ho)
  · rw [hread.resolve_right fun h => hcname h.1] at ho
    exact fun e he => .inl ((hchildren c hc).resolve_left hcname o ho e he)

private theorem isLost_declarator {s : Statement} (hs : s ∈ statements f) {d : Node} (hd : d ∈ f.tree.root.nodes)
    (hk : d.kind = .variableDeclarator) (hx : declarator f d ∈ s.declarators)
    (hgoes : (declarator f d).goes gone = true) {r : Reading}
    (hr : r.settle d.kind = .code ∨ ∃ how, r = .declarator how) :
    ∀ o ∈ d.outline f.tree.source r, IsLost f gone o := by
  obtain ⟨id, -, hgone, hcandidate⟩ := exists_candidate hs hx hgoes
  have hinside := ((ht.nested.of_mem hd).scattered f.tree.source r).inside
  intro o ho
  refine ⟨declaresOnly_declarator ht hd hk hgoes hr o ho, fun p hp => ⟨_, hcandidate, hgone, ?_⟩⟩
  exact hinside p (Outline.mem_places.2 ⟨o, ho, hp⟩)

/-- A declaration goes with its variables. -/
private theorem isLost_declaration {D p : Node} (hvisit : ⟨D, some p⟩ ∈ f.tree.root.walk) {s : Statement}
    (hs : statement? f ⟨D, some p⟩ = some s) (hgoes : s.goes gone = true) {r : Reading}
    (hr : r.settle D.kind = .code) : ∀ o ∈ D.outline f.tree.source r, IsLost f gone o := by
  have hk : D.IsDeclaration := (statement?_eq_some.1 hs).1
  have hD : D ∈ f.tree.root.nodes := List.mem_map_of_mem hvisit
  rw [Node.outline_of_isPlain (by rw [hk.construct]; rfl) (.inl hr), hr]
  refine isLost_stamp (fun o ho => ?_) r
  obtain ⟨c, hc, ho⟩ := List.mem_flatMap.1 ho
  simp only [Node.outlineAs, Reading.role, Reading.codeRole, hk.construct, Option.map_some, Option.getD_some] at ho
  by_cases hck : c.kind = .variableDeclarator
  · rw [if_pos hck] at ho
    have hx := declarator_mem_of_statement? hs hc hck
    simp only [Statement.goes, Bool.and_eq_true, List.all_eq_true] at hgoes
    have hmem : s ∈ statements f := List.mem_filterMap.2 ⟨_, hvisit, hs⟩
    have hcroot := Node.mem_nodes_trans (Node.child_mem_nodes hc) hD
    exact isLost_declarator ht hmem hcroot hck hx (hgoes.2 _ hx) (.inr ⟨_, rfl⟩) o ho
  · have htoken := (ht.declaration D hD hk c hc).resolve_left hck
    rw [if_neg hck, Node.outline_of_isToken htoken (.inl rfl)] at ho
    cases ho

variable (hundecorated : f.tree.IsUndecorated)
include hundecorated

/-- An export statement goes with its declaration. -/
private theorem isLost_exportStatement {e D : Node} {v : Node.Visit} (hv : v ∈ f.tree.root.walk)
    (he : e ∈ v.node.children) (hk : e.kind = .exportStatement) (hD : D ∈ e.children) {s : Statement}
    (hs : statement? f ⟨D, some e⟩ = some s) (hgoes : s.goes gone = true) {r : Reading} (hr : r.settle e.kind = .code) :
    ∀ o ∈ e.outline f.tree.source r, IsLost f gone o := by
  have hevisit := Node.child_mem_walk hv he
  have heroot : e ∈ f.tree.root.nodes := List.mem_map_of_mem hevisit
  have hDk : D.IsDeclaration := (statement?_eq_some.1 hs).1
  have hexported : e.IsExportedDeclaration := ⟨hk, D, hD, hDk⟩
  obtain ⟨huniq, hchildren⟩ := ht.exportStatement e heroot hexported
  have hconstruct : e.kind.construct = .exportStatement := by
    rw [hk]
    rfl
  rw [Node.outline_of_isPlain (by rw [hconstruct]; rfl) (.inl hr), hr]
  refine isLost_stamp (fun o ho => ?_) r
  obtain ⟨c, hc, ho⟩ := List.mem_flatMap.1 ho
  unfold Node.outlineAs at ho
  cases hrole : Reading.code.role f.tree.source e c with
  | none => simp [hrole] at ho
  | some r' =>
    rw [hrole] at ho
    have hr' : r'.settle c.kind = .code ∨ r' = .exportList ∧ c.kind = .exportClause := by
      simp only [Reading.role, Reading.codeRole, hconstruct, Reading.exportRole] at hrole
      repeat' split at hrole
      all_goals cases hrole
      all_goals first | exact .inl rfl | exact .inr ⟨rfl, ‹_›⟩
    by_cases hck : c.IsDeclaration
    · obtain rfl : c = D := eq_of_not_both huniq hc hD hck hDk
      have hcode : r'.settle c.kind = .code := by
        refine hr'.resolve_right fun h => ?_
        have hconstruct := hck.construct
        rw [h.2] at hconstruct
        cases hconstruct
      exact isLost_declaration ht (Node.child_mem_walk hevisit hc) hs hgoes hcode o ho
    · have htoken := ((hchildren c hc).resolve_left hck).resolve_left (hundecorated e heroot hexported c hc)
      rw [Option.map_some, Option.getD_some, Node.outline_of_isToken htoken (hr'.imp_right And.left)] at ho
      exact isLost_stamp (fun _ h => absurd h List.not_mem_nil) r' o ho

/-- What goes is lost, in whatever way it is read. -/
private theorem isLost_dropped {v : Node.Visit} (hv : v ∈ f.tree.root.walk) {c : Node} (hc : c ∈ v.node.children)
    (hdrop : dropped f gone v c = true) {r r' : Reading} (hrole : r.role f.tree.source v.node c = some r') :
    ∀ o ∈ c.outline f.tree.source r', IsLost f gone o := by
  have hholds := holdsVariables_of_dropped hdrop
  have hfields := ht.fields v.node (List.mem_map_of_mem hv) c hc hholds
  have hr' := Reading.settle_of_holdsVariables hholds (fun h => hfields (by simp [h])) hrole
  have hcode : c.kind ≠ .variableDeclarator → r'.settle c.kind = .code := fun hk =>
    hr'.resolve_right fun h => hk h.1
  rcases dropped_cases hdrop with ⟨s, hs, hk, hgoes⟩ | ⟨s, hs, hgoes⟩ | ⟨hk, D, hD, s, hs, hgoes⟩
  · have hx := declarator_mem_of_statement? hs hc hk
    have hcroot := Node.mem_nodes_trans (Node.child_mem_nodes hc) (List.mem_map_of_mem hv)
    exact isLost_declarator ht (List.mem_filterMap.2 ⟨v, hv, hs⟩) hcroot hk hx hgoes (hr'.imp_right And.right)
  · refine isLost_declaration ht (Node.child_mem_walk hv hc) hs hgoes (hcode fun hk => ?_)
    have hdeclaration : c.IsDeclaration := (statement?_eq_some.1 hs).1
    have hconstruct := hdeclaration.construct
    rw [hk] at hconstruct
    cases hconstruct
  · refine isLost_exportStatement ht hundecorated hv hc hk hD hs hgoes (hcode fun hk' => ?_)
    rw [hk] at hk'
    cases hk'

/-- What goes tells nothing about how other nodes are read. -/
theorem prunable : Prunable f.tree.root (dropped f gone) f.tree.source (IsLost f gone) where
  kind := fun _ _ _ _ hdrop => holdsVariables_of_dropped hdrop
  field := fun v hv c hc hdrop => by
    have hfields := ht.fields v.node (List.mem_map_of_mem hv) c hc (holdsVariables_of_dropped hdrop)
    simp only [List.mem_cons, List.not_mem_nil, or_false, not_or] at hfields
    obtain ⟨hname, hkind, hsource, halias, -⟩ := hfields
    exact ⟨hname, hkind, hsource, halias⟩
  exportClause := fun v hv hk c hc => by
    by_contra hdrop
    have hholds := holdsVariables_of_dropped (by simpa using hdrop)
    rw [ht.exportClause v.node (List.mem_map_of_mem hv) hk c hc] at hholds
    cases hholds
  lost := fun _ hv _ hc hdrop _ _ hrole => isLost_dropped ht hundecorated hv hc hdrop hrole

/-- The remainder has the outline of the whole tree without what is lost. -/
theorem outline_remainder : Outline.Thins (IsLost f (goneFrom f)) [(remainder f).outline] [f.tree.outline] :=
  Prunable.thins_file (prunable ht hundecorated)

private theorem thins_remainder : (remainder f).Thins (MayGoAs f) f.tree :=
  ⟨ht.nested, (outline_remainder ht hundecorated).mono fun _ h => h.declares⟩

end Lost

/-! ### Nothing is left for a second removal -/

/-- The first declaration of a binding that counts as exported stays, if any declaration of it stays. -/
def ExportsStay (f : Facts) : Prop :=
  ∀ b ∈ f.scopes.bindings, b.exported = true → (∃ s ∈ b.sites, (remainder f).mentionsAt s.span = true) →
    ∀ s ∈ b.sites.head?, (remainder f).mentionsAt s.span = true

instance (f : Facts) : Decidable (ExportsStay f) := inferInstanceAs (Decidable (∀ b ∈ f.scopes.bindings, _))

/-- Where the declaration of a binding may go, the binding may go, but for an exported `var`. -/
private theorem removable_of_lost (hf : f.scopes = .ofTree f.tree) (hnested : f.tree.root.IsNested) {id : Nat}
    {b : Binding} (hb : f.scopes.bindings[id]? = some b) {s : Site} (hs : s ∈ b.sites) (hlost : MayGoAs f b.kind s.span)
    (hkeep : (b.exported && f.settings.keepExported) = true → b.kind ≠ .varName) :
    b.kind.isVariable = true ∧ (b.exported && f.settings.keepExported) = false := by
  rcases hlost with hvar | ⟨m, id', hremovable, hspan⟩
  · exact ⟨by rw [hvar]; rfl, Bool.eq_false_iff.2 fun hboth => hkeep hboth hvar⟩
  · -- the name leads to the same binding
    obtain ⟨-, hat, b', hb', hmay⟩ := removableBinding?_eq_some.1 hremovable
    have hid : f.scopes.bindingAt? m.span = some id := by
      rw [hf] at hb ⊢
      exact ScopeTree.bindingAt?_eq hnested hb hs (by rw [hspan])
    obtain rfl : id = id' := Option.some.inj (hid.symm.trans hat)
    obtain rfl : b = b' := Option.some.inj (hb.symm.trans hb')
    exact hmay

section Remainder

variable (ht : f.tree.VariablesInPlace) (hundecorated : f.tree.IsUndecorated)
include ht hundecorated

/-- A candidate of the remainder is a variable that does not go. -/
private theorem exists_declarator_of_remainder {settings : Settings} {c : Candidate}
    (hc : c ∈ candidates (statements (.ofTree (remainder f) settings))) :
    ∃ s ∈ statements f, ∃ x ∈ s.declarators, x.goes (goneFrom f) = false ∧ ∃ m,
      x.binding? = removableBinding? f m ∧
        removableBinding? (.ofTree (remainder f) settings) m = some c.binding := by
  obtain ⟨x', hx', hcandidate⟩ := List.mem_filterMap.1 hc
  obtain ⟨s', hs', hx'⟩ := List.mem_flatMap.1 hx'
  obtain ⟨v', hv', hs'⟩ := List.mem_filterMap.1 hs'
  obtain ⟨hk', p', hp', hlist, rfl⟩ := statement?_eq_some.1 hs'
  obtain ⟨d', hd', rfl⟩ := List.mem_map.1 hx'
  obtain ⟨hd', hdk'⟩ := Node.mem_declarators.1 hd'
  -- the declaration and its declarator in the whole tree
  obtain ⟨v, hv, rfl, D, hD, -, hDnode⟩ := Node.exists_visit_of_prune hv' hp'
  rw [hDnode] at hk' hd'
  obtain ⟨d, hd, hdstays, rfl⟩ := Node.mem_children_prune.1 hd'
  have hdk : d.kind = .variableDeclarator := by simpa using hdk'
  have hDvisit := Node.child_mem_walk hv hD
  obtain ⟨s, hs⟩ : ∃ s, statement? f ⟨D, some v.node⟩ = some s :=
    ⟨_, statement?_eq_some.2 ⟨by simpa [Node.IsDeclaration] using hk', v.node, rfl, by simpa using hlist, rfl⟩⟩
  have hstays : (declarator f d).goes (goneFrom f) = false := by
    simp only [dropped, hs, Option.isSome_some, hdk, decide_true, Bool.true_and, Bool.or_eq_false_iff] at hdstays
    exact hdstays.1.1
  -- the name is in the remainder what it is in the whole tree
  have P : Prunable f.tree.root (dropped f (goneFrom f)) f.tree.source (IsLost f (goneFrom f)) :=
    prunable ht hundecorated
  have hname := P.childByField?_prune (Node.child_mem_walk hDvisit hd) (.inl (Eq.refl Field.name))
  obtain ⟨id, hid, rfl⟩ := Option.map_eq_some_iff.1 hcandidate
  obtain ⟨m', hm', hremovable⟩ := Option.bind_eq_some_iff.1 hid
  rw [hname] at hm'
  obtain ⟨m, hm, rfl⟩ := Option.map_eq_some_iff.1 hm'
  refine ⟨s, List.mem_filterMap.2 ⟨_, hDvisit, hs⟩, _, declarator_mem_of_statement? hs hd hdk, hstays, m, ?_, ?_⟩
  · simp [declarator, hm]
  · simpa [removableBinding?] using hremovable

variable (hf : f.scopes = .ofTree f.tree)
include hf

/-- A binding of the remainder that may go could have gone before, with all that is left of it. -/
private theorem exists_removable (hexports : f.settings.keepExported = true → ExportsStay f) {m : Node} {id' : Nat}
    (hm : removableBinding? (.ofTree (remainder f) f.settings) m = some id') :
    ∃ id, removableBinding? f m = some id ∧ ∃ b, f.scopes.bindings[id]? = some b ∧
      ∃ b', (ScopeTree.ofTree (remainder f)).bindings[id']? = some b' ∧
        ∃ s ∈ b'.sites, s ∈ b.sites ∧ (remainder f).mentionsAt s.span = true := by
  obtain ⟨hname, hat, b', hb', hmay⟩ := removableBinding?_eq_some.1 hm
  obtain ⟨b'', hb'', s, hs', hstart⟩ := (ScopeTree.separate_ofTree ht.nested.prune).bindingAt hat
  obtain rfl : b'' = b' := Option.some.inj (hb''.symm.trans hb')
  obtain ⟨id, b, hb, hsites, first, hfirst, hsame, hlost⟩ := (thins_remainder ht hundecorated).exists_binding hb'
  rw [← hf] at hb
  obtain ⟨hs, hkept⟩ := List.mem_filter.1 (hsites ▸ hs')
  have hid : f.scopes.bindingAt? m.span = some id := by
    rw [hf] at hb ⊢
    exact ScopeTree.bindingAt?_eq ht.nested hb hs hstart
  refine ⟨id, removableBinding?_eq_some.2 ⟨hname, hid, b, hb, ?_⟩, b, hb, b'', hb', s, hs', hs, hkept⟩
  cases hfirstkept : (remainder f).mentionsAt first.span with
  | true =>
    obtain ⟨hkind, hexported⟩ := hsame hfirstkept
    rw [← hkind, ← hexported]
    exact hmay
  | false =>
    refine removable_of_lost hf ht.nested hb (List.mem_of_mem_head? hfirst) (hlost hfirstkept) fun hboth => ?_
    obtain ⟨hexported, hkeep⟩ := (Bool.and_eq_true _ _).mp hboth
    have hstays := hexports hkeep b (Array.mem_of_getElem? hb) hexported ⟨s, hs, hkept⟩ first hfirst
    rw [hfirstkept] at hstays
    cases hstays

/-- Every reference stays or stands in a variable that goes. -/
private theorem reference_cases {r : Reference} (hr : r ∈ f.scopes.references) :
    (remainder f).mentionsAt r.site.span = true ∨ GoesAround f (goneFrom f) r.site.span := by
  rw [hf] at hr
  obtain ⟨r₀, hr₀, rfl⟩ := Array.mem_map.1 hr
  obtain ⟨k, hk⟩ := Array.getElem?_of_mem hr₀
  have hmention := (ScopeRecord.sound_outline f.tree).references_mentioned hk
  have hplace : r₀.site.span ∈ Outline.places [f.tree.outline] := by
    simp only [Outline.places, Outline.mentions.mentionsAll, List.append_nil, List.mem_map]
    exact ⟨_, hmention, rfl⟩
  rcases (outline_remainder ht hundecorated).place_cases hplace with hkept | ⟨o, ho, hp⟩
  · left
    simpa [Tree.mentionsAt, Outline.places, Outline.mentions.mentionsAll] using hkept
  · exact .inr (ho.inside _ hp)

/-- A candidate that does not go has a reference that is left, as one stands outside of all that goes. -/
private theorem exists_reference_left {c : Candidate} (hc : c ∈ candidates (statements f))
    (hstays : c.binding ∉ goneFrom f) (hlt : c.binding < f.scopes.bindings.size) :
    ∃ r ∈ f.scopes.references, r.binding = some c.binding ∧ (remainder f).mentionsAt r.site.span = true := by
  have hclosed := (isLeast_settle f.scopes.referencesTo (candidates (statements f))).1
  have hlive : ¬ MayGo f.scopes.referencesTo (candidates (statements f)) {i | i ∈ goneFrom f} c.binding :=
    fun hmay => hstays (hclosed.mem c hc hmay)
  obtain ⟨r, hr, hout⟩ : ∃ r ∈ f.scopes.referencesTo c.binding, ¬ GoesAround f (goneFrom f) r.site.span := by
    by_contra hnone
    push Not at hnone
    exact hlive hnone
  have hscopes : f.scopes = ScopeTree.ofTree f.tree := by rw [hf]
  rw [hscopes] at hr hlt
  rw [ScopeTree.referencesTo_ofTree hlt, ← hscopes, List.mem_filter, Array.mem_toList_iff] at hr
  obtain ⟨hr, hbinding⟩ := hr
  exact ⟨r, hr, by simpa using hbinding, (reference_cases ht hundecorated hf hr).resolve_right hout⟩

end Remainder

/-- Without the variables that go, the rule has nothing to do. -/
theorem second_removal_finds_nothing (tree : Tree) (settings : Settings) (ht : tree.VariablesInPlace)
    (hundecorated : tree.IsUndecorated)
    (hexports : settings.keepExported = true → ExportsStay (.ofTree tree settings)) :
    (propose (.ofTree (remainder (.ofTree tree settings)) settings)).edits = [] := by
  let f := Facts.ofTree tree settings
  refine isSettled_iff.1 fun c hc => ?_
  -- the candidate is left of a candidate that does not go
  obtain ⟨s, hs, x, hx, hstays, m, hbinding, hm⟩ := exists_declarator_of_remainder ht hundecorated hc
  obtain ⟨id, hid, b, hb, b', hb', site, hsite', hsite, hkept⟩ := exists_removable ht hundecorated rfl hexports hm
  have hxid : x.binding? = some id := hbinding.trans hid
  have hcandidate : (⟨id, x.node.span⟩ : Candidate) ∈ candidates (statements f) := by
    refine List.mem_filterMap.2 ⟨x, List.mem_flatMap.2 ⟨s, hs, hx⟩, ?_⟩
    simp [Declarator.candidate?, hxid]
  have hnot : id ∉ goneFrom f := by
    intro hgone
    rw [Declarator.goes, hxid] at hstays
    simp [f, hgone] at hstays
  have hlt := (Array.getElem?_eq_some_iff.1 hb).1
  obtain ⟨r, hr, hrid, hrkept⟩ := exists_reference_left ht hundecorated rfl hcandidate hnot hlt
  -- the reference means what is left of the binding
  have hthins : (remainder f).Thins (MayGoAs f) tree := thins_remainder ht hundecorated
  obtain ⟨r', hr', id', b'', hrid', hb'', hsites⟩ := hthins.exists_reference hr hrkept hrid hb ⟨site, hsite, hkept⟩
  have hsite'' : site ∈ b''.sites := by
    rw [hsites]
    exact List.mem_filter.2 ⟨hsite, hkept⟩
  have hseparate := ScopeTree.separate_ofTree (t := remainder f) ht.nested.prune
  obtain rfl : c.binding = id' := hseparate.eq_of_start hb' hb'' hsite' hsite'' rfl
  have huse : r' ∈ (ScopeTree.ofTree (remainder f)).referencesTo c.binding := by
    rw [ScopeTree.referencesTo_ofTree (Array.getElem?_eq_some_iff.1 hb').1]
    exact List.mem_filter.2 ⟨Array.mem_toList_iff.2 hr', by simpa using hrid'⟩
  exact List.ne_nil_of_mem huse

/-- The declaration of a class with a static block, where a number is declared. -/
def withStaticBlock (field : Option Field) (start : Nat) : BareNode :=
  .byVar field start (start + 40)
    [.initialized (start + 4) (start + 5) (.regular .classKeyword (some .value) (start + 8) (start + 39)
      [.token .classKeyword none (start + 8) (start + 13),
       .braced (.other "class_body") (some .body) (start + 14) (start + 39)
        [.regular .classStaticBlock (some (.other "member")) (start + 16) (start + 37)
          [.token (.other "static") none (start + 16) (start + 22),
           .body (start + 23) (start + 37) [.oneByVar none (start + 25)]]]])]

/-- An exported name is declared again in a class that goes. -/
def exportedBefore : BareNode :=
  .regular .program none 0 58 [.exporting 0 17 [.oneByVar (some .declaration) 7], withStaticBlock none 18]

/-- The class goes, the exported name stays exported, and nothing else can go. -/
theorem second_removal_finds_nothing_exported_before :
    let source := "export var y = 0; var x = class \x7b static \x7b var y = 1; \x7d \x7d;"
    let t : Tree := ⟨exportedBefore.place 0, source, .javascript⟩
    let f := Facts.ofTree t .standard
    t.VariablesInPlace ∧ t.IsUndecorated ∧ ExportsStay f ∧ (propose f).edits = [.delete ⟨17, 58⟩] ∧
      (propose (.ofTree (remainder f) .standard)).edits = [] := by
  intro source t f
  have ht : t.VariablesInPlace := by decide +kernel
  have hundecorated : t.IsUndecorated := by decide +kernel
  have hexports : ExportsStay f := by decide +kernel
  refine ⟨ht, hundecorated, hexports, by decide +kernel, ?_⟩
  exact second_removal_finds_nothing t .standard ht hundecorated fun _ => hexports

/-- A class is declared, and then declared again by an export statement. In its static block stands the declaration of a
number that is declared again behind the class. -/
def exportedBetween : BareNode :=
  .regular .program none 0 65
    [.byVar none 0 6 [.uninitialized 4 5], .exporting 7 54 [withStaticBlock (some .declaration) 14],
     .oneByVar none 55]

/-- The mark of the number goes with the class, which is not marked because of its first declaration. So the number
stays at first, and goes when the rule is applied again. -/
theorem second_removal_takes_static_variable :
    let source := "var x; export var x = class \x7b static \x7b var y = 1; \x7d \x7d; var y = 2;"
    let t : Tree := ⟨exportedBetween.place 0, source, .javascript⟩
    let f := Facts.ofTree t .standard
    t.VariablesInPlace ∧ t.IsUndecorated ∧ (propose f).edits = [.delete ⟨0, 6⟩, .delete ⟨6, 54⟩] ∧
      (propose (.ofTree (remainder f) .standard)).edits = [.delete ⟨54, 65⟩] := by
  decide +kernel

end UnusedVariables

end ScriptTidy
