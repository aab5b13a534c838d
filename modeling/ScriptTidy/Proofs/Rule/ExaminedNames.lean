import ScriptTidy.Proofs.Names.Patterns
import ScriptTidy.Proofs.Rule.Casing
import ScriptTidy.Proofs.Rule.SecondConversion

/-!
# The names that decide about a `var`

The rule on bindings looks at the identifiers in the patterns of a declaration that have a binding. These are the ones
that the declaration declares on the descent through its patterns, and those that are declared in a part of a pattern
that is read as code (`examined_iff_declared`). A default value is such a part, and if it holds a function, then a
parameter of that function decides about the declaration (`parameter_in_default_keeps_var`).
-/

namespace ScriptTidy

/-! ### Places of declarations -/

/-- The place of a name that is declared. -/
def Mention.declaredSpan? : Mention → Option Span
  | declares _ _ site => some site.span
  | refers _ _ => none

private theorem Mention.span_of_declaredSpan? {x : Mention} {span : Span} (h : x.declaredSpan? = some span) :
    x.span = span := by
  cases x with
  | declares how name site => exact Option.some.inj h
  | refers name site => cases h

/-- The outlines declare a name at this place. -/
def Outline.DeclareAt (os : List Outline) (span : Span) : Prop :=
  ∃ x ∈ mentions.mentionsAll os, x.declaredSpan? = some span

namespace Outline

instance (os : List Outline) (span : Span) : Decidable (DeclareAt os span) := inferInstanceAs (Decidable (∃ x ∈ _, _))

variable {os ps : List Outline} {span : Span}

theorem DeclareAt.mem_places (h : DeclareAt os span) : span ∈ places os := by
  obtain ⟨x, hx, hspan⟩ := h
  exact Mention.span_of_declaredSpan? hspan ▸ List.mem_map_of_mem hx

private theorem declareAt_singleton {o : Outline} :
    DeclareAt [o] span ↔ ∃ x ∈ o.mentions, x.declaredSpan? = some span := by
  simp [DeclareAt, mentions.mentionsAll]

private theorem declareAt_append : DeclareAt (os ++ ps) span ↔ DeclareAt os span ∨ DeclareAt ps span := by
  simp [DeclareAt, or_and_right, exists_or]

private theorem declareAt_perm (h : os.Perm ps) : DeclareAt os span ↔ DeclareAt ps span := by
  simp [DeclareAt, (mentionsAll_perm h).mem_iff]

end Outline

open Outline (DeclareAt)

namespace ScopeTree

variable {t : Tree} {m : Node}

/-- An identifier has a binding where a name is declared in its place. -/
private theorem isSome_bindingAt?_iff (hnested : t.root.IsNested) (hids : t.DeclaresIdentifiers)
    (hleaf : ∀ n ∈ t.root.nodes, n.kind.isIdentifier = true → n.children = []) (hm : m ∈ t.root.nodes)
    (hk : m.kind.isIdentifier = true) (hbyte : m.span.start < m.span.stop) :
    ((ofTree t).bindingAt? m.span).isSome = true ↔ DeclareAt [t.outline] m.span := by
  rw [Outline.declareAt_singleton]
  constructor
  · intro hsome
    obtain ⟨id, hid⟩ := Option.isSome_iff_exists.1 hsome
    obtain ⟨b, hb, s, hs, hstart⟩ := (separate_ofTree hnested).bindingAt hid
    have hsbyte := (separate_ofTree hnested).byte hb s hs
    obtain ⟨how, hmention⟩ := (ScopeRecord.sound_outline t).sites_mentioned hb s hs
    obtain ⟨n, hn, hnk, hspan⟩ := hids b (Array.mem_of_getElem? hb) s hs
    -- two leaves that start with the same byte are one
    have hsame : n = m := by
      rcases hnested.eq_or_apart_of_leaves hn hm (hleaf n hn hnk) (hleaf m hm hk) with heq | hapart
      · exact heq
      · rw [hspan] at hapart
        rcases hapart with hapart | hapart <;> omega
    rw [← hsame, hspan]
    exact ⟨_, hmention, rfl⟩
  · rintro ⟨x, hx, hspan⟩
    cases x with
    | refers name site => cases hspan
    | declares how name site =>
      obtain ⟨id, b, hb, -, hs⟩ := exists_binding_of_mention hnested hx
      rw [bindingAt?_eq hnested hb hs (congrArg Span.start (Option.some.inj hspan))]
      rfl

end ScopeTree

/-! ### Declarations in a pattern -/

/-- The outlines of what a pattern leaves to be read as code. -/
def Node.codeOutline (source : String) (how : BindingKind) (p : Node) : List Outline :=
  (p.codeParts how).flatMap fun c => c.outline source .code

section Pattern

variable {t : Tree} {kind : ScopeKind} {how : BindingKind} {p : Node} {span : Span}
  (hp : t.Reads kind (.pattern how) p) (hnested : t.root.IsNested)
include hp hnested

/-- Inside of a pattern, names are declared by the descent and in its parts that are read as code. -/
private theorem Tree.Reads.declareAt_iff (hin : p.span.covers span = true) : DeclareAt [t.outline] span ↔
    DeclareAt (p.descent t.source how) span ∨ DeclareAt (p.codeOutline t.source how) span := by
  rw [← Outline.declareAt_append, Node.codeOutline, ← Outline.declareAt_perm (p.outline_pattern t.source how),
    Outline.declareAt_singleton]
  constructor
  · rintro ⟨x, hx, hspan⟩
    have hplace := Mention.span_of_declaredSpan? hspan
    exact ⟨x, hp.mention_of_covers hnested hx (hplace ▸ hin), hspan⟩
  · rintro ⟨x, hx, hspan⟩
    exact ⟨x, hp.mention_mem hx, hspan⟩

/-- What a pattern declares, in one way or the other, lies inside of the pattern and has a byte. -/
private theorem Tree.Reads.inside_of_declareAt
    (h : DeclareAt (p.descent t.source how) span ∨ DeclareAt (p.codeOutline t.source how) span) :
    p.span.covers span = true ∧ span.start < span.stop := by
  rw [← Outline.declareAt_append, Node.codeOutline, ← Outline.declareAt_perm (p.outline_pattern t.source how)] at h
  have hscattered := (hnested.of_mem hp.mem_nodes).scattered t.source (.pattern how)
  exact ⟨hscattered.inside _ h.mem_places, hscattered.byte _ h.mem_places⟩

/-- No place is declared in both ways. -/
private theorem Tree.Reads.not_declareAt_both (h : DeclareAt (p.descent t.source how) span) :
    ¬ DeclareAt (p.codeOutline t.source how) span := by
  intro hcode
  have hscattered := (hnested.of_mem hp.mem_nodes).scattered t.source (.pattern how)
  have hplaces : (Outline.places (p.outline t.source (.pattern how))).Perm
      (Outline.places (p.descent t.source how) ++ Outline.places (p.codeOutline t.source how)) := by
    rw [← Outline.places_append]
    exact (Outline.mentionsAll_perm (p.outline_pattern t.source how)).map _
  have happart := (List.pairwise_append.1 (hscattered.of_perm hplaces).apart).2.2
  exact Span.not_apart_self (hp.inside_of_declareAt hnested (.inl h)).2 (happart _ h.mem_places _ hcode.mem_places)

end Pattern

namespace Bindings

/-! ### Declarations in the patterns of a declaration -/

/-- The patterns of a declaration are the names of its declarators. -/
def patterns (D : Node) : List Node :=
  (D.children.filter (·.kind = .variableDeclarator)).flatMap fun d => d.children.filter (·.field = some .name)

/-- The descent through the patterns of a declaration by `var` declares a name at this place. -/
def DeclaresAt (source : String) (D : Node) (span : Span) : Prop :=
  ∃ p ∈ patterns D, DeclareAt (p.descent source .varName) span

/-- A name is declared at this place by what is read as code in the patterns of a declaration by `var`. -/
def DeclaresInCode (source : String) (D : Node) (span : Span) : Prop :=
  ∃ p ∈ patterns D, DeclareAt (p.codeOutline source .varName) span

instance (source : String) (D : Node) (span : Span) : Decidable (DeclaresAt source D span) :=
  inferInstanceAs (Decidable (∃ p ∈ _, _))

instance (source : String) (D : Node) (span : Span) : Decidable (DeclaresInCode source D span) :=
  inferInstanceAs (Decidable (∃ p ∈ _, _))

variable {t : Tree} {source : String} {kind : ScopeKind} {reading : Reading} {D m p q : Node} {span : Span}

private theorem mem_patterns : p ∈ patterns D ↔
    ∃ d ∈ D.children, d.kind = .variableDeclarator ∧ p ∈ d.children ∧ p.field = some .name := by
  simp [patterns, and_assoc]

/-- The identifiers that are looked at are those in the patterns, where no declarator has a second name. -/
private theorem mem_patternIdentifiers_iff (hname : ∀ d ∈ D.children, d.kind = .variableDeclarator →
      (d.children.filter (·.field = some .name)).length ≤ 1) :
    m ∈ patternIdentifiers D ↔ ∃ p ∈ patterns D, m ∈ p.declarable := by
  rw [mem_patternIdentifiers]
  constructor
  · rintro ⟨d, hd, hk, p, hp, hm⟩
    exact ⟨p, mem_patterns.2 ⟨d, hd, hk, Node.mem_children_of_field hp, by simpa using List.find?_some hp⟩, hm⟩
  · rintro ⟨p, hp, hm⟩
    obtain ⟨d, hd, hk, hp, hfield⟩ := mem_patterns.1 hp
    exact ⟨d, hd, hk, p, Node.childByField?_of_only (hname d hd hk) hp hfield, hm⟩

/-- What the descent declares is declared in the place of an identifier that is looked at. -/
private theorem exists_identifier_of_declaresAt (hname : ∀ d ∈ D.children, d.kind = .variableDeclarator →
      (d.children.filter (·.field = some .name)).length ≤ 1) (h : DeclaresAt source D span) :
    ∃ m ∈ patternIdentifiers D, m.span = span := by
  obtain ⟨p, hp, x, hx, hspan⟩ := h
  rw [Outline.mentionsAll_eq_flatMap] at hx
  obtain ⟨o, ho, hx⟩ := List.mem_flatMap.1 hx
  obtain ⟨m, hm, -, form, rfl⟩ := Node.exists_of_mem_descent ho
  obtain rfl := List.mem_singleton.1 hx
  exact ⟨m, (mem_patternIdentifiers_iff hname).2 ⟨p, hp, hm⟩, Option.some.inj hspan⟩

section Declaration

variable (hD : t.Reads kind reading D) (hcode : reading.settle D.kind = .code) (hvar : D.kind = .variableDeclaration)
include hD hcode hvar

private theorem reads_pattern (hp : p ∈ patterns D) : ∃ kind', t.Reads kind' (.pattern .varName) p := by
  obtain ⟨d, hd, hk, hp, hfield⟩ := mem_patterns.1 hp
  have hdeclarator : (reading.settle D.kind).role t.source D d = some (.declarator .varName) := by
    rw [hcode]
    simp [Reading.role, Reading.codeRole, hvar, Kind.construct, hk, Reading.declaredKind]
  have hpattern : ((Reading.declarator .varName).settle d.kind).role t.source d p = some (.pattern .varName) := by
    simp [Reading.settle, Reading.role, hfield]
  exact ⟨_, (hD.child hd hdeclarator).child hp hpattern⟩

variable (hnested : t.root.IsNested)
include hnested

omit hcode hvar in
/-- A place with a byte lies in one pattern at most. -/
private theorem pattern_unique (hp : p ∈ patterns D) (hq : q ∈ patterns D) (hbyte : span.start < span.stop)
    (hinp : p.span.covers span = true) (hinq : q.span.covers span = true) : p = q := by
  obtain ⟨d, hd, -, hp, -⟩ := mem_patterns.1 hp
  obtain ⟨e, he, -, hq, -⟩ := mem_patterns.1 hq
  have hDnested := hnested.of_mem hD.mem_nodes
  have hmeets : p.span.Meets q.span :=
    ((Span.meets_of_covers hinp hbyte).symm.of_covers hinq).symm
  have hde : d = e := hDnested.eq_of_meets hd he
    ((hmeets.of_covers ((hDnested.child hd).covers_child hp)).symm.of_covers ((hDnested.child he).covers_child hq)).symm
  subst hde
  exact (hDnested.child hd).eq_of_meets hp hq hmeets

private theorem not_declaresInCode (h : DeclaresAt t.source D span) : ¬ DeclaresInCode t.source D span := by
  rintro ⟨q, hq, hdeclare'⟩
  obtain ⟨p, hp, hdeclare⟩ := h
  obtain ⟨_, hreadp⟩ := reads_pattern hD hcode hvar hp
  obtain ⟨_, hreadq⟩ := reads_pattern hD hcode hvar hq
  obtain ⟨hinp, hbyte⟩ := hreadp.inside_of_declareAt hnested (.inl hdeclare)
  obtain ⟨hinq, -⟩ := hreadq.inside_of_declareAt hnested (.inr hdeclare')
  obtain rfl := pattern_unique hD hnested hp hq hbyte hinp hinq
  exact hreadp.not_declareAt_both hnested hdeclare hdeclare'

/-- An identifier in a pattern has a binding if the descent declares a name in its place, or code in a pattern does. -/
private theorem isSome_bindingAt?_patternIdentifiers (hids : t.DeclaresIdentifiers)
    (hleaf : ∀ n ∈ t.root.nodes, n.kind.isIdentifier = true → n.children = [])
    (hname : ∀ d ∈ D.children, d.kind = .variableDeclarator →
      (d.children.filter (·.field = some .name)).length ≤ 1)
    (hm : m ∈ patternIdentifiers D) (hbyte : m.span.start < m.span.stop) :
    ((ScopeTree.ofTree t).bindingAt? m.span).isSome = true ↔
      DeclaresAt t.source D m.span ∨ DeclaresInCode t.source D m.span := by
  obtain ⟨p, hp, hmp⟩ := (mem_patternIdentifiers_iff hname).1 hm
  obtain ⟨_, hread⟩ := reads_pattern hD hcode hvar hp
  obtain ⟨hmp, hk⟩ := Node.mem_declarable.1 hmp
  have hroot := Node.mem_nodes_trans hmp hread.mem_nodes
  have hin : p.span.covers m.span = true := (hnested.of_mem hread.mem_nodes).covers hmp
  have hidentifier : m.kind.isIdentifier = true := by rcases hk with hk | hk <;> rw [hk] <;> rfl
  rw [ScopeTree.isSome_bindingAt?_iff hnested hids hleaf hroot hidentifier hbyte, hread.declareAt_iff hnested hin]
  constructor
  · rintro (h | h)
    · exact .inl ⟨p, hp, h⟩
    · exact .inr ⟨p, hp, h⟩
  · -- another pattern has no part in this place
    have hsame : ∀ q ∈ patterns D, q.span.covers m.span = true → q = p := fun q hq hinq =>
      pattern_unique hD hnested hq hp hbyte hinq hin
    rintro (⟨q, hq, h⟩ | ⟨q, hq, h⟩)
    · obtain ⟨_, hreadq⟩ := reads_pattern hD hcode hvar hq
      exact .inl (hsame q hq (hreadq.inside_of_declareAt hnested (.inl h)).1 ▸ h)
    · obtain ⟨_, hreadq⟩ := reads_pattern hD hcode hvar hq
      exact .inr (hsame q hq (hreadq.inside_of_declareAt hnested (.inr h)).1 ▸ h)

end Declaration

/-- Nothing speaks against the name in the place of `m`. -/
def IsClear (f : Facts) (D m : Node) : Prop := ∀ id ∈ f.scopes.bindingAt? m.span, bindingObstacle? f D id = none

instance (f : Facts) (D m : Node) : Decidable (IsClear f D m) := inferInstanceAs (Decidable (∀ id ∈ _, _))

/-- **The names that decide.** Let a declaration by `var` be read as code, with one pattern for each declarator and no
identifier in its patterns without a byte. The identifiers that the rule looks at are those in whose place the descent
through the patterns declares a name, and those in whose place a name is declared by what is read as code in a pattern;
no place is both. So they are what the declaration declares exactly if no identifier of its patterns is declared in such
a part. The declaration becomes a `let` if it stands at the top of a function and nothing speaks against the names of
either sort. -/
theorem examined_iff_declared (t : Tree) (settings : Settings) (hnested : t.root.IsNested)
    (hids : t.DeclaresIdentifiers) (hleaf : ∀ n ∈ t.root.nodes, n.kind.isIdentifier = true → n.children = [])
    {kind : ScopeKind} {reading : Reading} {D : Node} (hD : t.Reads kind reading D)
    (hcode : reading.settle D.kind = .code) (hvar : D.kind = .variableDeclaration)
    (hname : ∀ d ∈ D.children, d.kind = .variableDeclarator →
      (d.children.filter (·.field = some .name)).length ≤ 1)
    (hbyte : ∀ m ∈ patternIdentifiers D, m.span.start < m.span.stop) :
    let f := Facts.ofTree t settings
    (∀ m ∈ patternIdentifiers D, (f.scopes.bindingAt? m.span).isSome = true ↔
      DeclaresAt t.source D m.span ∨ DeclaresInCode t.source D m.span) ∧
    (∀ span, DeclaresAt t.source D span →
      ¬ DeclaresInCode t.source D span ∧ ∃ m ∈ patternIdentifiers D, m.span = span) ∧
    ((∀ m ∈ patternIdentifiers D, (f.scopes.bindingAt? m.span).isSome = true ↔ DeclaresAt t.source D m.span) ↔
      ∀ m ∈ patternIdentifiers D, ¬ DeclaresInCode t.source D m.span) ∧
    ∀ v : Node.Visit, v.node = D → (obstacle? f v = none ↔
      v.parent.all (isTop ·.kind) = true ∧ f.scopes.isFunctionLikeAt D.span.start = true ∧
      (∀ m ∈ patternIdentifiers D, DeclaresAt t.source D m.span → IsClear f D m) ∧
      ∀ m ∈ patternIdentifiers D, DeclaresInCode t.source D m.span → IsClear f D m) := by
  intro f
  have hexamined : ∀ m ∈ patternIdentifiers D, (f.scopes.bindingAt? m.span).isSome = true ↔
      DeclaresAt t.source D m.span ∨ DeclaresInCode t.source D m.span := fun m hm =>
    isSome_bindingAt?_patternIdentifiers hD hcode hvar hnested hids hleaf hname hm (hbyte m hm)
  have hnotboth : ∀ span, DeclaresAt t.source D span → ¬ DeclaresInCode t.source D span := fun span h =>
    not_declaresInCode hD hcode hvar hnested h
  refine ⟨hexamined, fun span h => ⟨hnotboth span h, ?_⟩, ?_, ?_⟩
  · exact exists_identifier_of_declaresAt hname h
  · constructor
    · intro hagree m hm hin
      exact hnotboth _ ((hagree m hm).1 ((hexamined m hm).2 (.inr hin))) hin
    · intro hnone m hm
      rw [hexamined m hm, or_iff_left (hnone m hm)]
  · rintro v rfl
    rw [obstacle?_eq_none_iff]
    refine and_congr_right fun _ => and_congr_right fun _ => ⟨fun h => ⟨fun m hm _ => h m hm, fun m hm _ => h m hm⟩, ?_⟩
    rintro ⟨hown, hin⟩ m hm id hid
    rcases (hexamined m hm).1 (by rw [hid]; rfl) with h | h
    · exact hown m hm h id hid
    · exact hin m hm h id hid

/-! ### A function in a default value -/

/-- A declaration by `var` with a pattern, in which a function is the default value. -/
def defaultFunction : BareNode :=
  .regular .program none 0 25
    [.byVar none 0 25
      [.assigned .variableDeclarator
        (.braced .objectPattern (some .name) 4 20
          [.assigned .objectAssignmentPattern (.regular .shorthandPropertyIdentifierPattern (some .left) 6 7 [])
            (.regular .arrowFunction (some (.other "right")) 10 18
              [.parameters 10 13 [.identifier none 11 12], .token (.other "=>") none 14 16,
               .identifier (some .body) 17 18])])
        (.identifier (some .value) 23 24)]]

def defaultTree : Tree :=
  ⟨defaultFunction.place 0, "var \x7b f = (x) => x \x7d = o;", .javascript⟩

private def defaultDeclaration : Node := defaultTree.root.children.get ⟨0, by decide +kernel⟩

private theorem reads_defaultDeclaration : defaultTree.Reads .file .code defaultDeclaration :=
  .top (List.get_mem _ _)

private theorem declaresIdentifiers_defaultTree : defaultTree.DeclaresIdentifiers := by
  unfold Tree.DeclaresIdentifiers
  decide +kernel

/-- The name of the pattern and the parameter of the function both have a binding. -/
theorem examined_iff_declared_with_parameter :
    let t := defaultTree
    let f := Facts.ofTree t .standard
    t.root.IsNested ∧ t.DeclaresIdentifiers ∧ ∃ D ∈ t.root.children, t.Reads .file .code D ∧
      (patternIdentifiers D).map (·.span) = [⟨6, 7⟩, ⟨11, 12⟩, ⟨17, 18⟩] ∧
      DeclaresAt t.source D ⟨6, 7⟩ ∧ DeclaresInCode t.source D ⟨11, 12⟩ ∧
      ∀ m ∈ patternIdentifiers D, (f.scopes.bindingAt? m.span).isSome = true ↔
        DeclaresAt t.source D m.span ∨ DeclaresInCode t.source D m.span := by
  intro t f
  have hnested : t.root.IsNested := by decide +kernel
  have hleaf : ∀ n ∈ t.root.nodes, n.kind.isIdentifier = true → n.children = [] := by decide +kernel
  have hname : ∀ d ∈ defaultDeclaration.children, d.kind = .variableDeclarator →
      (d.children.filter (·.field = some .name)).length ≤ 1 := by decide +kernel
  have hbyte : ∀ m ∈ patternIdentifiers defaultDeclaration, m.span.start < m.span.stop := by decide +kernel
  refine ⟨hnested, declaresIdentifiers_defaultTree, defaultDeclaration, List.get_mem _ _, reads_defaultDeclaration,
    by decide +kernel, by decide +kernel, by decide +kernel, ?_⟩
  exact (examined_iff_declared t .standard hnested declaresIdentifiers_defaultTree hleaf reads_defaultDeclaration rfl
    (by decide +kernel) hname hbyte).1

/-- The parameter is no name of the declaration, but it has a binding, which is not one by `var`. So the declaration is
kept, although nothing speaks against its own name. -/
theorem parameter_in_default_keeps_var :
    let t := defaultTree
    let f := Facts.ofTree t .standard
    ∃ D ∈ t.root.children, t.Reads .file .code D ∧
      (∃ m ∈ patternIdentifiers D, (f.scopes.bindingAt? m.span).isSome = true ∧ ¬ DeclaresAt t.source D m.span) ∧
      (∀ m ∈ patternIdentifiers D, DeclaresAt t.source D m.span → IsClear f D m) ∧
      obstacle? f ⟨D, some t.root⟩ = some .redeclared ∧ (propose f).edits = [] ∧
      (propose f).skipped = ["Kept 'var' on line 1: name is declared more than once"] := by
  intro t f
  exact ⟨defaultDeclaration, List.get_mem _ _, reads_defaultDeclaration, by decide +kernel, by decide +kernel,
    by decide +kernel, by decide +kernel, by decide +kernel⟩

end Bindings

end ScriptTidy
