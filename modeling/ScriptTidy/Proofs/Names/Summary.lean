import Mathlib.Data.List.Induction
import Mathlib.Data.List.Nodup
import ScriptTidy.Names.Summary
import ScriptTidy.Proofs.Names.Patterns
import ScriptTidy.Proofs.Names.References

/-!
# The summary lists what is declared

The summary goes through a tree on its own and finds the names in the patterns of declarators by a recursion of its
own. In a tree in which all declarators and functions are read, these are the names that the outline declares on the
descent through the patterns (`patternNames_eq`) and as functions. Each is listed once, in the order in which it is
found (`summary_lists_declared_names`).
-/

namespace ScriptTidy

/-! ### First occurrences -/

/-- The list has the elements of `all`, each once and in the order of their first occurrences there. -/
structure ListsFirsts (names all : List String) : Prop where
  nodup : names.Nodup
  mem_iff : ∀ name, name ∈ names ↔ name ∈ all
  inOrder : names.Pairwise fun a b => all.idxOf a < all.idxOf b

private theorem eraseDups_concat (names : List String) (name : String) :
    (names ++ [name]).eraseDups = if name ∈ names then names.eraseDups else names.eraseDups ++ [name] := by
  rw [List.eraseDups_append]
  by_cases h : name ∈ names <;> simp [List.removeAll, h, List.eraseDups_cons]

private theorem listsFirsts_eraseDups (names : List String) : ListsFirsts names.eraseDups names := by
  induction names using List.reverseRecOn with
  | nil => exact ⟨by simp, by simp, by simp⟩
  | append_singleton names name ih =>
    have hidx : ∀ x ∈ names.eraseDups, (names ++ [name]).idxOf x = names.idxOf x := fun x hx =>
      List.idxOf_append_of_mem ((ih.mem_iff x).1 hx)
    have hfront : names.eraseDups.Pairwise fun a b => (names ++ [name]).idxOf a < (names ++ [name]).idxOf b :=
      ih.inOrder.imp_of_mem fun {a b} ha hb hlt => by rwa [hidx a ha, hidx b hb]
    rw [eraseDups_concat]
    split
    case isTrue hmem =>
      refine ⟨ih.nodup, fun x => ?_, hfront⟩
      rw [ih.mem_iff]
      simp only [List.mem_append, List.mem_singleton]
      exact ⟨.inl, fun h => h.elim id fun heq => heq ▸ hmem⟩
    case isFalse hnew =>
      have hlast : name ∉ names.eraseDups := fun h => hnew ((ih.mem_iff name).1 h)
      refine ⟨List.nodup_append.2 ⟨ih.nodup, by simp, ?_⟩, fun x => ?_, ?_⟩
      · rintro a ha b hb rfl
        exact hlast (List.mem_singleton.1 hb ▸ ha)
      · simp only [List.mem_append, ih.mem_iff]
      · refine List.pairwise_append.2 ⟨hfront, by simp, fun a ha b hb => ?_⟩
        obtain rfl := List.mem_singleton.1 hb
        rw [hidx a ha, List.idxOf_append_of_notMem hnew, List.idxOf_cons_self]
        exact List.idxOf_lt_length_of_mem ((ih.mem_iff a).1 ha)

/-! ### The names of a pattern -/

namespace Outline

/-- The name of a declaration. -/
def declaredName? : Outline → Option String
  | declare _ name _ => some name
  | _ => none

/-- The names of the declarations among some outlines, in order. -/
def declaredNames (os : List Outline) : List String := os.filterMap declaredName?

@[simp] theorem declaredNames_nil : declaredNames [] = [] := rfl

@[simp] theorem declaredNames_append (os ps : List Outline) :
    declaredNames (os ++ ps) = declaredNames os ++ declaredNames ps := List.filterMap_append

private theorem declaredNames_flatMap {α : Type} (xs : List α) (f : α → List Outline) :
    declaredNames (xs.flatMap f) = xs.flatMap fun x => declaredNames (f x) := List.filterMap_flatMap

private theorem mem_declaredNames {os : List Outline} {name : String} :
    name ∈ declaredNames os ↔ ∃ how site, .declare how name site ∈ os := by
  simp only [declaredNames, List.mem_filterMap]
  constructor
  · rintro ⟨o, ho, hname⟩
    cases o with
    | declare how other site =>
      obtain rfl : other = name := Option.some.inj hname
      exact ⟨how, site, ho⟩
    | _ => cases hname
  · rintro ⟨how, site, ho⟩
    exact ⟨_, ho, rfl⟩

private theorem declaredNames_declareNode (source : String) (how : BindingKind) (form : Form) (n : Node) :
    declaredNames (declareNode source how form n) = [n.text source].filter (· ≠ "") := by
  unfold declareNode
  split
  case isTrue h => simp [h]
  case isFalse h => simp [h, declaredNames, declaredName?]

end Outline

namespace Node

/-- What the grammars guarantee about patterns: a pair has at most one value, and what has a default value has at most
one left side. -/
structure SinglePatterns (root : Node) : Prop where
  value : ∀ n ∈ root.nodes, n.kind = .pairPattern → (n.children.filter (·.field = some .value)).length ≤ 1
  left : ∀ n ∈ root.nodes, n.kind = .objectAssignmentPattern ∨ n.kind = .assignmentPattern →
    (n.children.filter (·.field = some .left)).length ≤ 1

instance (root : Node) : Decidable root.SinglePatterns :=
  decidable_of_iff ((∀ n ∈ root.nodes, n.kind = .pairPattern →
      (n.children.filter (·.field = some .value)).length ≤ 1) ∧
    ∀ n ∈ root.nodes, n.kind = .objectAssignmentPattern ∨ n.kind = .assignmentPattern →
      (n.children.filter (·.field = some .left)).length ≤ 1)
    ⟨fun ⟨h₁, h₂⟩ => ⟨h₁, h₂⟩, fun ⟨h₁, h₂⟩ => ⟨h₁, h₂⟩⟩

theorem SinglePatterns.of_mem {root n : Node} (h : root.SinglePatterns) (hn : n ∈ root.nodes) : n.SinglePatterns :=
  ⟨fun m hm => h.value m (mem_nodes_trans hm hn), fun m hm => h.left m (mem_nodes_trans hm hn)⟩

end Node

section PatternNames

variable {n : Node} {source : String}

private theorem first_eq (field : Field) (cs : List Node) : patternNames.first source field cs =
    ((cs.find? (·.field = some field)).toList).flatMap (patternNames source) := by
  induction cs with
  | nil => rfl
  | cons c cs ih =>
    rw [patternNames.first, List.find?_cons, ih]
    by_cases h : c.field = some field <;> simp [h]

private theorem proper_eq (cs : List Node) :
    patternNames.proper source cs = (cs.filter (·.isProper)).flatMap (patternNames source) := by
  induction cs with
  | nil => rfl
  | cons c cs ih =>
    rw [patternNames.proper, ih]
    by_cases h : c.isProper = true <;> simp [h]

/-- The children of a pattern that the descent goes into. -/
private def inner (how : BindingKind) (n : Node) : List Node :=
  n.children.filter fun c => Reading.patternRole how n c = some (.pattern how)

private theorem inner_eq {how : BindingKind} {p : Node → Bool}
    (h : ∀ c, Reading.patternRole how n c = some (.pattern how) ↔ p c = true) : inner how n = n.children.filter p := by
  unfold inner
  refine List.filter_congr fun c _ => ?_
  rw [Bool.eq_iff_iff, decide_eq_true_eq, h c]

/-- The summary looks for names in a pattern where the descent does. -/
private theorem patternNames_of_isPattern (hsingle : n.SinglePatterns) (how : BindingKind)
    (hpattern : Reading.isPattern n.kind = true) :
    (patternNames source n).filter (· ≠ "") = Outline.declaredNames ((Reading.pattern how).opening source n) ++
      (inner how n).flatMap fun c => (patternNames source c).filter (· ≠ "") := by
  cases n with
  | mk label children =>
    have hself := Node.mem_nodes_self (.mk label children)
    -- where the children in a field are searched, the first one is the only one
    have hfield : ∀ field, (children.filter (·.field = some field)).length ≤ 1 →
        (∀ c, Reading.patternRole how (.mk label children) c = some (.pattern how) ↔ c.field = some field) →
        (patternNames.first source field children).filter (· ≠ "") =
          (inner how (.mk label children)).flatMap fun c => (patternNames source c).filter (· ≠ "") := by
      intro field honly hrole
      rw [first_eq, List.filter_flatMap, inner_eq fun c => (hrole c).trans decide_eq_true_iff.symm]
      have hfound := Node.filter_field_of_only (n := .mk label children) honly
      exact congrArg _ hfound.symm
    have hkind : Node.kind (.mk label children) = label.kind := rfl
    cases hk : label.kind
    all_goals rw [hk] at hkind
    case identifier | shorthandPropertyIdentifierPattern =>
      have hnone : inner how (.mk label children) = [] := by simp [inner, Reading.patternRole, hkind]
      rw [hnone]
      simp only [Reading.opening, hkind, Outline.declaredNames_declareNode]
      simp [patternNames, hk, Node.text, Node.span, Node.label]
    case objectPattern | arrayPattern | restPattern =>
      have hproper : inner how (.mk label children) = children.filter (·.isProper) :=
        inner_eq fun c => by simp [Reading.patternRole, hkind]
      rw [hproper]
      simp [patternNames, hk, proper_eq, List.filter_flatMap, Reading.opening, hkind]
    case pairPattern =>
      have hnames := hfield .value (hsingle.value _ hself hkind) fun c => by
        by_cases hvalue : c.field = some .value
        · simp [Reading.patternRole, hkind, hvalue]
        · by_cases hcomputed : c.kind = .computedPropertyName <;> simp [Reading.patternRole, hkind, hvalue, hcomputed]
      rw [← hnames]
      simp [patternNames, hk, Reading.opening, hkind]
    case objectAssignmentPattern | assignmentPattern =>
      have hnames := hfield .left (hsingle.left _ hself (by simp [hkind])) fun c => by
        by_cases hleft : c.field = some .left <;> simp [Reading.patternRole, hkind, hleft]
      rw [← hnames]
      simp [patternNames, hk, Reading.opening, hkind]
    all_goals
      rw [hkind] at hpattern
      cases hpattern

private theorem patternNames_of_not_isPattern (h : ¬ Reading.isPattern n.kind = true) : patternNames source n = [] := by
  cases n with
  | mk label children =>
    unfold patternNames
    split
    all_goals first | rfl | exact absurd (by simp_all [Node.kind, Node.label, Reading.isPattern]) h

private theorem flatMap_eq_flatMap_filter {α β : Type} {p : α → Bool} {f g : α → List β} {xs : List α}
    (h : ∀ x ∈ xs, f x = if p x then g x else []) : xs.flatMap f = (xs.filter p).flatMap g := by
  induction xs with
  | nil => rfl
  | cons x xs ih =>
    rw [List.flatMap_cons, h x (by simp), ih fun y hy => h y (by simp [hy])]
    cases hx : p x <;> simp [hx]

/-- The names that the summary finds in a pattern are those that the descent declares, from left to right. -/
theorem patternNames_eq (hsingle : n.SinglePatterns) (how : BindingKind) :
    (patternNames source n).filter (· ≠ "") = Outline.declaredNames (n.descent source how) := by
  induction n using Node.induction with
  | h label children ih =>
    rw [Node.descent_eq]
    split
    case isTrue hpattern =>
      rw [patternNames_of_isPattern hsingle how hpattern, Outline.declaredNames_append, Outline.declaredNames_flatMap]
      refine congrArg _ (flatMap_eq_flatMap_filter fun c hc => ?_).symm
      rw [Node.descentIn, ih c hc (hsingle.of_mem (Node.child_mem_nodes hc))]
      split <;> simp [*]
    case isFalse hnot =>
      rw [patternNames_of_not_isPattern hnot]
      rfl

end PatternNames

/-! ### The names of a file -/

namespace Node

/-- What is declared while the pattern of a declarator is descended, from left to right. -/
def patternDescent (source : String) (how : BindingKind) (d : Node) : List Outline :=
  ((d.childByField? .name).map fun p => p.descent source how).getD []

/-- The declaration of a function or of a generator. -/
def IsFunctionDeclaration (n : Node) : Prop := n.kind = .functionDeclaration ∨ n.kind = .generatorFunctionDeclaration

instance (n : Node) : Decidable n.IsFunctionDeclaration := inferInstanceAs (Decidable (_ ∨ _))

variable {n d : Node} {source name : String} {how how' : BindingKind} {site : Site}

private theorem kind_of_patternDescent (h : .declare how' name site ∈ d.patternDescent source how) : how' = how := by
  unfold patternDescent at h
  cases hp : d.childByField? .name with
  | none => simp [hp] at h
  | some p =>
    rw [hp, Option.map_some, Option.getD_some] at h
    obtain ⟨m, -, -, form, heq⟩ := exists_of_mem_descent h
    cases heq
    rfl

theorem IsFunctionDeclaration.construct (h : n.IsFunctionDeclaration) : n.kind.construct = .functionDeclaration := by
  rcases h with h | h <;> rw [h] <;> rfl

theorem IsFunctionDeclaration.kind_of_preamble (h : n.IsFunctionDeclaration)
    (hdeclare : .declare how name site ∈ Reading.code.preamble source n) : how = .functionName := by
  simp only [Reading.preamble, h.construct] at hdeclare
  cases hc : n.childByField? .name with
  | none => simp [hc] at hdeclare
  | some c =>
    rw [hc, Option.map_some, Option.getD_some, Outline.declareNode] at hdeclare
    split at hdeclare
    · cases hdeclare
    · cases List.mem_singleton.1 hdeclare
      rfl

end Node

/-- Only what is read as code declares something in front of its region. -/
private theorem Reading.preamble_subset (r : Reading) (source : String) (n : Node) :
    r.preamble source n ⊆ Reading.code.preamble source n := by
  cases r with
  | code => exact List.Subset.refl _
  | _ => simp [preamble]

/-- All declarators are read as declarators, and all declarations of functions as code. -/
structure Tree.DeclarationsAreRead (t : Tree) : Prop where
  declarators : ∀ d ∈ t.root.nodes, d.kind = .variableDeclarator → ∃ kind how, t.Reads kind (.declarator how) d
  functions : ∀ f ∈ t.root.nodes, f.IsFunctionDeclaration → ∃ kind r, t.Reads kind r f ∧ r.settle f.kind = .code

/-! ### A test of what is read -/

/-- A declarator has to be read as one, and the declaration of a function as code. -/
def Reading.reaches (r : Reading) (kind : Kind) : Bool :=
  match kind, r with
  | .variableDeclarator, declarator _ => true
  | .variableDeclarator, _ => false
  | .functionDeclaration, r | .generatorFunctionDeclaration, r => r.settle kind = code
  | _, _ => true

/-- All declarators and declarations of functions inside of the node are read as they have to be. -/
def Node.reachesAll (source : String) : Reading → Node → Bool
  | r, .mk label children =>
    r.reaches label.kind && inside ((r.settle label.kind).role source (.mk label children)) children
where
  inside (role : Node → Option Reading) : List Node → Bool
    | [] => true
    | c :: cs =>
      (match role c with
        | some r => c.reachesAll source r
        -- what is not read has to hold none
        | none => c.nodes.all fun m => m.kind ≠ .variableDeclarator && !m.IsFunctionDeclaration) && inside role cs

namespace Tree

variable {t : Tree} {kind : ScopeKind} {r : Reading} {n m : Node}

private theorem Reads.exists_of_reachesAll (h : t.Reads kind r n) (hall : n.reachesAll t.source r = true)
    (hm : m ∈ n.nodes) (hk : m.kind = .variableDeclarator ∨ m.IsFunctionDeclaration) :
    ∃ kind' r', t.Reads kind' r' m ∧ r'.reaches m.kind = true := by
  have hinside : ∀ (role : Node → Option Reading) (cs : List Node), Node.reachesAll.inside t.source role cs = true →
      ∀ c ∈ cs, match role c with
        | some r => c.reachesAll t.source r = true
        | none => ∀ m ∈ c.nodes, ¬ (m.kind = .variableDeclarator ∨ m.IsFunctionDeclaration) := by
    intro role cs
    induction cs with
    | nil => simp
    | cons d cs ih =>
      intro hd c hc
      rw [Node.reachesAll.inside, Bool.and_eq_true] at hd
      rcases List.mem_cons.1 hc with rfl | hc
      · cases hrole : role c <;> simp_all
      · exact ih hd.2 c hc
  induction n using Node.induction generalizing kind r with
  | h label children ih =>
    rw [Node.reachesAll, Bool.and_eq_true] at hall
    rcases Node.mem_nodes.1 hm with rfl | ⟨c, hc, hm⟩
    · exact ⟨kind, r, h, hall.1⟩
    · have hchild := hinside _ _ hall.2 c hc
      cases hrole : (r.settle label.kind).role t.source (.mk label children) c with
      | none =>
        rw [hrole] at hchild
        exact absurd hk (hchild m hm)
      | some r' =>
        rw [hrole] at hchild
        exact ih c hc (h.child hc hrole) hchild hm

private theorem declarationsAreRead (hroot : t.root.kind ≠ .variableDeclarator ∧ ¬ t.root.IsFunctionDeclaration)
    (hall : ∀ c ∈ t.root.children, c.reachesAll t.source .code = true) : t.DeclarationsAreRead := by
  have hreach : ∀ m ∈ t.root.nodes, m.kind = .variableDeclarator ∨ m.IsFunctionDeclaration →
      ∃ kind' r', t.Reads kind' r' m ∧ r'.reaches m.kind = true := by
    intro m hm hk
    rcases Node.mem_nodes.1 hm with rfl | ⟨c, hc, hm⟩
    · exact absurd hk (by simp [hroot])
    · exact (Reads.top hc).exists_of_reachesAll (hall c hc) hm hk
  constructor
  · intro d hd hk
    obtain ⟨kind, r, hread, hreaches⟩ := hreach d hd (.inl hk)
    cases r <;> simp [Reading.reaches, hk] at hreaches
    exact ⟨kind, _, hread⟩
  · intro f hf hk
    obtain ⟨kind, r, hread, hreaches⟩ := hreach f hf (.inr hk)
    refine ⟨kind, r, hread, ?_⟩
    rcases hk with hk | hk <;> simpa [Reading.reaches, hk] using hreaches

end Tree

namespace Tree.Reads

variable {t : Tree} {kind : ScopeKind} {r : Reading} {how : BindingKind} {name : String} {site : Site} {d f p : Node}

private theorem kind_of_declarator (h : t.Reads kind (.declarator how) d) : d.kind = .variableDeclarator := by
  cases h with
  | child _ _ hrole => exact Reading.demands_of_role hrole

theorem pattern (h : t.Reads kind (.declarator how) d) (hp : p ∈ d.children) (hfield : p.field = some .name) :
    t.Reads kind (.pattern how) p := by
  have hrole : ((Reading.declarator how).settle d.kind).role t.source d p = some (.pattern how) := by
    simp [Reading.settle, Reading.role, hfield]
  exact h.child hp hrole

/-- What the descent through the pattern of a declarator declares, the tree declares. -/
private theorem mention_of_patternDescent (h : t.Reads kind (.declarator how) d)
    (hdeclare : .declare how name site ∈ d.patternDescent t.source how) :
    .declares how name site ∈ t.outline.mentions := by
  unfold Node.patternDescent at hdeclare
  cases hp : d.childByField? .name with
  | none => simp [hp] at hdeclare
  | some p =>
    rw [hp, Option.map_some, Option.getD_some] at hdeclare
    have hread := h.pattern (Node.mem_children_of_field hp) (by simpa using List.find?_some hp)
    have houtline := (p.outline_pattern t.source how).mem_iff.2 (List.mem_append_left _ hdeclare)
    exact hread.mention_mem (Outline.mention_of_declare houtline)

private theorem mention_of_preamble (h : t.Reads kind r f)
    (hdeclare : .declare how name site ∈ (r.settle f.kind).preamble t.source f) :
    .declares how name site ∈ t.outline.mentions := by
  have hmention := Outline.mention_of_declare hdeclare
  refine h.mention_mem ?_
  rw [Node.mentionsAll_outline, Reading.own]
  simp [hmention]

end Tree.Reads

namespace DeclaredNames

variable {t : Tree} {name : String} {n : Node}

private theorem listsFirsts_distinct (names : List String) : ListsFirsts (distinct names) (names.filter (· ≠ "")) :=
  listsFirsts_eraseDups _

private theorem variablesAt_eq (source : String) (hsingle : n.SinglePatterns) (how : BindingKind) :
    (variablesAt source n).filter (· ≠ "") =
      if n.kind = .variableDeclarator then Outline.declaredNames (n.patternDescent source how) else [] := by
  unfold variablesAt Node.patternDescent
  split
  case isFalse => rfl
  cases hp : n.childByField? .name with
  | none => rfl
  | some p =>
    have hp' := hsingle.of_mem (Node.child_mem_nodes (Node.mem_children_of_field hp))
    exact patternNames_eq hp' how

private theorem functionsAt_eq (source : String) (n : Node) : (functionsAt source n).filter (· ≠ "") =
    if n.IsFunctionDeclaration then Outline.declaredNames (Reading.code.preamble source n) else [] := by
  by_cases h : n.IsFunctionDeclaration
  · have hfunctions : functionsAt source n = ((n.childByField? .name).map fun c => [c.text source]).getD [] := if_pos h
    rw [hfunctions, if_pos h]
    simp only [Reading.preamble, h.construct]
    cases n.childByField? .name with
    | none => rfl
    | some c => exact (Outline.declaredNames_declareNode source .functionName .plain c).symm
  · have hfunctions : functionsAt source n = [] := if_neg h
    rw [hfunctions, if_neg h]
    rfl

/-- The names of a file in the order in which they are declared. -/
private theorem listsFirsts_variableNames (hsingle : t.root.SinglePatterns) (how : Node → BindingKind) :
    ListsFirsts (ofTree t).variableNames (Outline.declaredNames
      ((t.root.nodes.filter (·.kind = .variableDeclarator)).flatMap fun d => d.patternDescent t.source (how d))) := by
  have hall : (t.root.nodes.flatMap (variablesAt t.source)).filter (· ≠ "") = Outline.declaredNames
      ((t.root.nodes.filter (·.kind = .variableDeclarator)).flatMap fun d => d.patternDescent t.source (how d)) := by
    rw [List.filter_flatMap, Outline.declaredNames_flatMap]
    refine flatMap_eq_flatMap_filter fun d hd => ?_
    rw [variablesAt_eq t.source (hsingle.of_mem hd) (how d)]
    simp
  exact hall ▸ listsFirsts_distinct _

private theorem listsFirsts_functionNames (t : Tree) : ListsFirsts (ofTree t).functionNames (Outline.declaredNames
    ((t.root.nodes.filter (·.IsFunctionDeclaration)).flatMap fun f => Reading.code.preamble t.source f)) := by
  have hall : (t.root.nodes.flatMap (functionsAt t.source)).filter (· ≠ "") = Outline.declaredNames
      ((t.root.nodes.filter (·.IsFunctionDeclaration)).flatMap fun f => Reading.code.preamble t.source f) := by
    rw [List.filter_flatMap, Outline.declaredNames_flatMap]
    refine flatMap_eq_flatMap_filter fun f _ => ?_
    rw [functionsAt_eq]
    simp
  exact hall ▸ listsFirsts_distinct _

private theorem empty_not_mem_distinct (names : List String) : "" ∉ distinct names := by
  simp [distinct, List.mem_eraseDups]

private theorem mem_variableNames_iff (hread : t.DeclarationsAreRead) (hsingle : t.root.SinglePatterns) :
    name ∈ (ofTree t).variableNames ↔ ∃ kind how d site, t.Reads kind (.declarator how) d ∧
      .declare how name site ∈ d.patternDescent t.source how ∧ .declares how name site ∈ t.outline.mentions := by
  constructor
  · intro hname
    rw [(listsFirsts_variableNames hsingle fun _ => .varName).mem_iff, Outline.declaredNames_flatMap] at hname
    obtain ⟨d, hd, hname⟩ := List.mem_flatMap.1 hname
    obtain ⟨hd, hk⟩ := List.mem_filter.1 hd
    obtain ⟨kind, how, hreads⟩ := hread.declarators d hd (by simpa using hk)
    -- the names do not depend on how they are declared
    have hvar := variablesAt_eq t.source (hsingle.of_mem hd) .varName
    have hhow := variablesAt_eq t.source (hsingle.of_mem hd) how
    rw [if_pos (by simpa using hk)] at hvar hhow
    rw [← hvar, hhow] at hname
    obtain ⟨how', site, hdeclare⟩ := Outline.mem_declaredNames.1 hname
    obtain rfl := Node.kind_of_patternDescent hdeclare
    exact ⟨kind, how', d, site, hreads, hdeclare, hreads.mention_of_patternDescent hdeclare⟩
  · rintro ⟨kind, how, d, site, hreads, hdeclare, -⟩
    rw [(listsFirsts_variableNames hsingle fun _ => how).mem_iff, Outline.declaredNames_flatMap]
    have hd : d ∈ t.root.nodes.filter (·.kind = .variableDeclarator) :=
      List.mem_filter.2 ⟨hreads.mem_nodes, by simpa using hreads.kind_of_declarator⟩
    exact List.mem_flatMap.2 ⟨d, hd, Outline.mem_declaredNames.2 ⟨how, site, hdeclare⟩⟩

private theorem mem_functionNames_iff (hread : t.DeclarationsAreRead) :
    name ∈ (ofTree t).functionNames ↔ ∃ kind r f site, t.Reads kind r f ∧ f.IsFunctionDeclaration ∧
      .declare .functionName name site ∈ (r.settle f.kind).preamble t.source f ∧
      .declares .functionName name site ∈ t.outline.mentions := by
  rw [(listsFirsts_functionNames t).mem_iff, Outline.declaredNames_flatMap, List.mem_flatMap]
  constructor
  · rintro ⟨f, hf, hname⟩
    obtain ⟨hf, hk⟩ := List.mem_filter.1 hf
    have hfunction : f.IsFunctionDeclaration := by simpa using hk
    obtain ⟨kind, r, hreads, hcode⟩ := hread.functions f hf hfunction
    obtain ⟨how, site, hdeclare⟩ := Outline.mem_declaredNames.1 hname
    obtain rfl := hfunction.kind_of_preamble hdeclare
    rw [← hcode] at hdeclare
    exact ⟨kind, r, f, site, hreads, hfunction, hdeclare, hreads.mention_of_preamble hdeclare⟩
  · rintro ⟨kind, r, f, site, hreads, hfunction, hdeclare, -⟩
    refine ⟨f, List.mem_filter.2 ⟨hreads.mem_nodes, by simpa using hfunction⟩, Outline.mem_declaredNames.2 ?_⟩
    exact ⟨.functionName, site, Reading.preamble_subset _ t.source f hdeclare⟩

/-- **The summary of names.** Let all declarators and declarations of functions be read, and let no pair and no
default have more than one pattern. The names listed for variables are those that are declared on the descent through
the patterns of declarators, and the names listed for functions are those that declarations of functions and generators
declare. Each is listed once, none is empty, and they come in the order of their first declaration, declarators and
functions in the order of a walk and the names of a pattern from left to right. The pattern of a declarator is its name;
one with no second name has no other child that is read as a pattern. -/
theorem summary_lists_declared_names (t : Tree) (hread : t.DeclarationsAreRead) (hsingle : t.root.SinglePatterns) :
    let names := ofTree t
    (∀ name, name ∈ names.variableNames ↔ ∃ kind how d site, t.Reads kind (.declarator how) d ∧
      .declare how name site ∈ d.patternDescent t.source how ∧ .declares how name site ∈ t.outline.mentions) ∧
    (∀ name, name ∈ names.functionNames ↔ ∃ kind r f site, t.Reads kind r f ∧ f.IsFunctionDeclaration ∧
      .declare .functionName name site ∈ (r.settle f.kind).preamble t.source f ∧
      .declares .functionName name site ∈ t.outline.mentions) ∧
    (∀ how : Node → BindingKind, ListsFirsts names.variableNames (Outline.declaredNames
      ((t.root.nodes.filter (·.kind = .variableDeclarator)).flatMap fun d => d.patternDescent t.source (how d)))) ∧
    ListsFirsts names.functionNames (Outline.declaredNames
      ((t.root.nodes.filter (·.IsFunctionDeclaration)).flatMap fun f => Reading.code.preamble t.source f)) ∧
    "" ∉ names.variableNames ∧ "" ∉ names.functionNames ∧
    ∀ kind how d, t.Reads kind (.declarator how) d → (d.children.filter (·.field = some .name)).length ≤ 1 →
      ∀ p ∈ d.children, (Reading.declarator how).role t.source d p = some (.pattern how) →
        d.childByField? .name = some p := by
  intro names
  refine ⟨fun name => mem_variableNames_iff hread hsingle, fun name => mem_functionNames_iff hread,
    listsFirsts_variableNames hsingle, listsFirsts_functionNames t, empty_not_mem_distinct _,
    empty_not_mem_distinct _, ?_⟩
  intro kind how d _ honly p hp hrole
  have hfield : p.field = some .name := by
    by_contra hfield
    simp [Reading.role, hfield] at hrole
  exact Node.childByField?_of_only honly hp hfield

/-- A declaration with a pattern, a generator behind it, and in a default value of the pattern a function with
variables of its own. -/
def patternWithFunction : BareNode :=
  .regular .program none 0 67
    [.byVar none 0 50
      [.assigned .variableDeclarator
        (.braced .objectPattern (some .name) 4 45
          [.regular .shorthandPropertyIdentifierPattern none 6 7 [], .sign "," 7,
           .regular .pairPattern none 9 43
            [.regular .propertyIdentifier (some (.other "key")) 9 10 [], .sign ":" 10,
             .enclosed "[" "]" .arrayPattern (some .value) 12 43
              [.assigned .assignmentPattern (.identifier (some .left) 13 14)
                (.unnamedFunction (some (.other "right")) 17
                  (.body 29 42 [.byLet 31 40 [.uninitialized 35 36, .sign "," 36, .uninitialized 38 39]]))]]])
        (.identifier (some .value) 48 49)],
     .regular .generatorFunctionDeclaration none 51 67
      [.token .functionKeyword none 51 59, .sign "*" 59, .identifier (some .name) 61 62, .parameters 62 64 [],
       .body 65 67 []]]

def patternTree : Tree :=
  ⟨patternWithFunction.place 0,
    "var \x7b a, b: [c = function () \x7b let a, d; \x7d] \x7d = o; function* g() \x7b\x7d", .javascript⟩

/-- The variables of the function are listed behind those of the pattern, and a name that comes again is not. -/
theorem summary_lists_names_of_default_values :
    let t := patternTree
    let names := ofTree t
    t.DeclarationsAreRead ∧ t.root.SinglePatterns ∧
    names.variableNames = ["a", "c", "d"] ∧ names.functionNames = ["g"] ∧
    (∀ name, name ∈ names.variableNames ↔ ∃ kind how d site, t.Reads kind (.declarator how) d ∧
      .declare how name site ∈ d.patternDescent t.source how ∧ .declares how name site ∈ t.outline.mentions) ∧
    ∀ name, name ∈ names.functionNames ↔ ∃ kind r f site, t.Reads kind r f ∧ f.IsFunctionDeclaration ∧
      .declare .functionName name site ∈ (r.settle f.kind).preamble t.source f ∧
      .declares .functionName name site ∈ t.outline.mentions := by
  intro t names
  have hread : t.DeclarationsAreRead := Tree.declarationsAreRead (by decide) (by decide +kernel)
  have hsingle : t.root.SinglePatterns := by decide +kernel
  obtain ⟨hvariables, hfunctions, -⟩ := summary_lists_declared_names t hread hsingle
  exact ⟨hread, hsingle, by decide +kernel, by decide +kernel, hvariables, hfunctions⟩

end DeclaredNames

end ScriptTidy
