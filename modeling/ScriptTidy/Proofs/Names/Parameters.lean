import ScriptTidy.Proofs.Names.Surroundings
import ScriptTidy.Rule.UnusedVariables

/-!
# What a parameter list refers to

A function has one region for its parameters and its body. So a name in a parameter list means what a region inside the
list declares, or else what the function declares for itself, be it in the list or in the body, or else what the name
means around the function (`reference_in_function`). It means something of the body alone exactly if the function
declares it in the body alone, and no region inside the list does (`parameter_means_body_iff`). Then a variable around
the function goes that the default value of a parameter needs (`default_value_means_body_variable`).
-/

namespace ScriptTidy

open Outline (declarations places)

/-! ### Inside of a function -/

/-- A node of this kind is a function. -/
def Kind.isFunction (kind : Kind) : Bool :=
  match kind.construct with
  | .functionDeclaration | .functionExpression | .methodLike => true
  | _ => false

namespace Node

variable {n c : Node}

private theorem scopeKind?_of_isFunction (h : n.kind.isFunction = true) :
    Reading.code.scopeKind? n.kind = some .function := by
  unfold Kind.isFunction at h
  cases hk : n.kind.construct <;> simp_all [Reading.scopeKind?]

private theorem role_of_isFunction (h : n.kind.isFunction = true) (source : String) (c : Node) :
    Reading.code.role source n c = Reading.functionRole c := by
  unfold Kind.isFunction at h
  cases hk : n.kind.construct <;> simp_all [Reading.role, Reading.codeRole]

/-- The places where a function declares a name for itself: as its own name, as a parameter or in its body. -/
def ownSites (source : String) (n : Node) (name : String) : List Site :=
  Outline.sitesOf name (declarations (n.outlineParts source .code))

private theorem inward_of_isFunction (h : n.kind.isFunction = true) (source : String) (outer : String → List Site)
    (name : String) : n.inward source .code outer name =
      if n.ownSites source name = [] then outer name else n.ownSites source name := by
  have haccepts : ScopeKind.function.accepts = fun _ => true := by
    funext how
    simp [ScopeKind.accepts, ScopeKind.isFunctionLike]
  rw [inward, scopeKind?_of_isFunction h]
  simp only [Outline.inside, haccepts]
  rfl

/-- A function keeps to itself what is declared inside of it. -/
private theorem IsNested.not_covers_declared (h : n.IsNested) (hfunction : n.kind.isFunction = true) {source : String}
    {reading r' : Reading} (hcode : reading.settle n.kind = .code) (hc : c ∈ n.children)
    (hrole : Reading.functionRole c = some r') {x : String × Site} (hx : x ∈ declarations (n.outline source reading)) :
    ¬ c.span.covers x.2.span = true := by
  have hrole' : (reading.settle n.kind).role source n c = some r' := by
    rw [hcode, role_of_isFunction hfunction, hrole]
  rw [outline_eq, declarations, Outline.declaredAll_stamp, ← declarations, Outline.mem_declarations_append] at hx
  rcases hx with hx | hx
  · exact h.not_covers_outside hc hrole' (Outline.place_of_declaration hx)
  · rw [hcode, Reading.enclose, scopeKind?_of_isFunction hfunction] at hx
    have hnone : ∀ how : BindingKind,
        (decide (how = .varName) && !ScopeKind.function.isFunctionLike && true) = false := by
      intro how
      simp [ScopeKind.isFunctionLike]
    rw [declarations, Outline.declared.declaredAll, Outline.declared,
      Outline.declaredAll_of_none hnone] at hx
    cases hx

end Node

namespace ScopeTree

variable {t : Tree} {kind : ScopeKind} {reading r' : Reading} {n c params body : Node} {r : Reference}

/-- A reference means a binding that is declared only inside of a span. -/
def MeansOnlyIn (t : ScopeTree) (r : Reference) (span : Span) : Prop :=
  ∃ id b, r.binding = some id ∧ t.bindings[id]? = some b ∧ ∀ s ∈ b.sites, span.covers s.span = true

private theorem meansOnlyIn_iff {span : Span} : (ofTree t).MeansOnlyIn r span ↔
    ((ofTree t).meaning r).sites ≠ [] ∧ ∀ s ∈ ((ofTree t).meaning r).sites, span.covers s.span = true := by
  constructor
  · rintro ⟨id, b, hid, hb, hsites⟩
    have heq : ((ofTree t).meaning r).sites = b.sites := by simp [meaning, hid, hb]
    rw [heq]
    exact ⟨(ScopeRecord.sound_outline t).sites_ne_nil hb, hsites⟩
  · rintro ⟨hne, hsites⟩
    unfold meaning at hne hsites
    cases hbinding : r.binding.bind ((ofTree t).bindings[·]?) with
    | none =>
      rw [hbinding] at hne
      exact absurd rfl hne
    | some b =>
      obtain ⟨id, hid, hb⟩ := Option.bind_eq_some_iff.1 hbinding
      rw [hbinding] at hsites
      exact ⟨id, b, hid, hb, hsites⟩

/-- A reference in a part of a function means what a region inside of that part declares, or else what the function
declares for itself, or else what the name means around the function. -/
theorem reference_in_function (hnested : t.root.IsNested) (hn : t.Reads kind reading n)
    (hcode : reading.settle n.kind = .code) (hfunction : n.kind.isFunction = true) (hc : c ∈ n.children)
    (hrole : Reading.functionRole c = some r') (hr : r ∈ (ofTree t).references)
    (hin : c.span.covers r.site.span = true) :
    (((ofTree t).meaning r).sites ≠ [] ∧ ∀ s ∈ ((ofTree t).meaning r).sites, c.span.covers s.span = true) ∨
    (n.ownSites t.source r.name ≠ [] ∧ ((ofTree t).meaning r).sites = n.ownSites t.source r.name) ∨
    (n.ownSites t.source r.name = [] ∧ ∀ s ∈ ((ofTree t).meaning r).sites, ∀ d ∈ n.children,
      Reading.functionRole d ≠ none → ¬ d.span.covers s.span = true) := by
  have hn' := hnested.of_mem hn.mem_nodes
  have hrole' : (reading.settle n.kind).role t.source n c = some r' := by
    rw [hcode, Node.role_of_isFunction hfunction, hrole]
  obtain ⟨outer, houter⟩ := hn.exists_around hnested
  have hmeaning : (ofTree t).meaning r ∈ t.outline.meanings fun _ => [] := by
    rw [← meanings_ofTree]
    exact List.mem_map_of_mem (Array.mem_toList_iff.2 hr)
  have hmem := (houter.child hn' hc hrole').refers hmeaning hin
  rw [hcode] at hmem
  rcases (Outline.meaning_cases.meaning_casesAll _ hmem).2 with hsites | ⟨hne, hsites⟩
  · right
    rw [Node.inward_of_isFunction hfunction] at hsites
    by_cases hown : n.ownSites t.source r.name = []
    · right
      refine ⟨hown, fun s hs d hd hread => ?_⟩
      rw [hsites, show ((ofTree t).meaning r).name = r.name from rfl, if_pos hown] at hs
      intro hd'
      have hs' := houter.declares hs (Span.covers_trans (hn'.covers_child hd) hd')
      obtain ⟨r'', hr''⟩ := Option.ne_none_iff_exists'.1 hread
      exact hn'.not_covers_declared hfunction hcode hd hr'' hs' hd'
    · left
      rw [show ((ofTree t).meaning r).name = r.name from rfl, if_neg hown] at hsites
      exact ⟨hown, hsites⟩
  · left
    refine ⟨hne, fun s hs => ?_⟩
    exact ((hn'.child hc).scattered t.source r').inside _ (hsites s hs)

/-- A reference does not mean something in two places that are apart. -/
private theorem not_meansOnlyIn_of_apart (hnested : t.root.IsNested) {p q : Span} (hapart : p.Apart q)
    (hp : (ofTree t).MeansOnlyIn r p) : ¬ (ofTree t).MeansOnlyIn r q := by
  have hseparate : (ofTree t).Separate := separate_ofTree hnested
  obtain ⟨id, b, hid, hb, hsites⟩ := hp
  rintro ⟨id', b', hid', hb', hsites'⟩
  obtain rfl := Option.some.inj (hid.symm.trans hid')
  obtain rfl : b = b' := Option.some.inj (hb.symm.trans hb')
  obtain ⟨s, hs⟩ := List.exists_mem_of_ne_nil _ ((ScopeRecord.sound_outline t).sites_ne_nil hb)
  exact Span.not_apart_self (hseparate.byte hb s hs) (hapart.of_covers (hsites s hs) (hsites' s hs))

/-- In a parameter list, a name means a binding of the body alone exactly if the function declares the name in its body
and nowhere else, and no region inside of the list declares it around the reference. -/
theorem parameter_means_body_iff (hnested : t.root.IsNested) (hn : t.Reads kind reading n)
    (hcode : reading.settle n.kind = .code) (hfunction : n.kind.isFunction = true)
    (hparams : params ∈ n.children) (hparams' : params.field = some .parameters) (hbody : body ∈ n.children)
    (hbody' : body.field = some .body) (hr : r ∈ (ofTree t).references)
    (hin : params.span.covers r.site.span = true) :
    (ofTree t).MeansOnlyIn r body.span ↔
      (n.ownSites t.source r.name ≠ [] ∧ ∀ s ∈ n.ownSites t.source r.name, body.span.covers s.span = true) ∧
        ¬ (ofTree t).MeansOnlyIn r params.span := by
  have hn' := hnested.of_mem hn.mem_nodes
  have hrole : Reading.functionRole params = some .parameterList := by simp [Reading.functionRole, hparams']
  have hread : Reading.functionRole body ≠ none := by simp [Reading.functionRole, hbody']
  have hapart : params.span.Apart body.span := by
    rcases hn'.eq_or_apart hparams hbody with rfl | hapart
    · rw [hparams'] at hbody'
      cases hbody'
    · exact hapart
  rcases reference_in_function hnested hn hcode hfunction hparams hrole hr hin with hinner | ⟨hne, hown⟩ | ⟨hnil, hout⟩
  · have hinner := meansOnlyIn_iff.2 hinner
    constructor
    · exact fun hbody => absurd hbody (not_meansOnlyIn_of_apart hnested hapart hinner)
    · exact fun h => absurd hinner h.2
  · have hiff : (ofTree t).MeansOnlyIn r body.span ↔
        n.ownSites t.source r.name ≠ [] ∧ ∀ s ∈ n.ownSites t.source r.name, body.span.covers s.span = true := by
      rw [meansOnlyIn_iff, hown]
    constructor
    · exact fun h => ⟨hiff.1 h, fun hparams => not_meansOnlyIn_of_apart hnested hapart hparams h⟩
    · exact fun h => hiff.2 h.1
  · constructor
    · intro h
      obtain ⟨hne, hsites⟩ := meansOnlyIn_iff.1 h
      obtain ⟨s, hs⟩ := List.exists_mem_of_ne_nil _ hne
      exact absurd (hsites s hs) (hout s hs body hbody hread)
    · exact fun h => absurd hnil h.1.1

end ScopeTree

/-! ### A body that declares what a default value names -/

/-- A parameter and its default value, which is a name. -/
private def defaulted (start : Nat) : BareNode :=
  .assigned .assignmentPattern (.identifier (some .left) start (start + 1))
    (.identifier (some (.other "right")) (start + 4) (start + 5))

/-- A variable, and behind it a function with two default values. Its body declares both names again. -/
def shadowedDefaults : BareNode :=
  .regular .program none 0 71
    [.oneByLet 0,
     .regular .functionDeclaration none 11 71
      [.token .functionKeyword none 11 19, .identifier (some .name) 20 21,
       .parameters 21 35 [defaulted 22, .sign "," 27, defaulted 29],
       .body 36 71 [.oneByVar none 38, .oneByVar none 49, .returned 60]]]

def shadowedTree : Tree :=
  ⟨shadowedDefaults.place 0,
    "let a = 1; function f(p = a, q = p) \x7b var a = 2; var p = 3; return a; \x7d", .javascript⟩

private def shadowingFunction : Node := shadowedTree.root.children.get ⟨1, by decide +kernel⟩

private theorem reads_shadowingFunction : shadowedTree.Reads .file .code shadowingFunction :=
  .top (List.get_mem _ _)

private def shadowingParameters : Node := shadowingFunction.children.get ⟨2, by decide +kernel⟩

private def shadowingBody : Node := shadowingFunction.children.get ⟨3, by decide +kernel⟩

private theorem parts_shadowingFunction :
    (shadowingParameters ∈ shadowingFunction.children ∧ shadowingParameters.field = some .parameters) ∧
      shadowingBody ∈ shadowingFunction.children ∧ shadowingBody.field = some .body :=
  ⟨⟨List.get_mem _ _, rfl⟩, List.get_mem _ _, rfl⟩

namespace ScopeTree

/-- The first default value means the variable of the body, the second the parameter that the body declares again. -/
theorem parameter_means_body_shadowed :
    let t := shadowedTree
    t.root.IsNested ∧ ∃ n params body, t.Reads .file .code n ∧ n.kind.isFunction = true ∧ params ∈ n.children ∧
      params.field = some .parameters ∧ body ∈ n.children ∧ body.field = some .body ∧
      ∃ r ∈ (ofTree t).references, ∃ s ∈ (ofTree t).references, r.name = "a" ∧ s.name = "p" ∧
        params.span.covers r.site.span = true ∧ params.span.covers s.site.span = true ∧
        (ofTree t).MeansOnlyIn r body.span ∧ ¬ (ofTree t).MeansOnlyIn s body.span := by
  intro t
  have hnested : t.root.IsNested := by decide +kernel
  let r : Reference := ⟨"a", ⟨⟨26, 27⟩, .plain⟩, 1, some 4⟩
  let s : Reference := ⟨"p", ⟨⟨33, 34⟩, .plain⟩, 1, some 2⟩
  have hr : r ∈ (ofTree t).references := by decide +kernel
  have hs : s ∈ (ofTree t).references := by decide +kernel
  have hn := reads_shadowingFunction
  have hfunction : shadowingFunction.kind.isFunction = true := by decide +kernel
  obtain ⟨⟨hparams, hparamsField⟩, hbody, hbodyField⟩ := parts_shadowingFunction
  refine ⟨hnested, _, _, _, hn, hfunction, hparams, hparamsField, hbody, hbodyField, r, hr, s, hs, rfl, rfl, rfl, rfl,
    ?_, ?_⟩
  · rw [parameter_means_body_iff hnested hn rfl hfunction hparams hparamsField hbody hbodyField hr rfl, meansOnlyIn_iff]
    decide +kernel
  · rw [parameter_means_body_iff hnested hn rfl hfunction hparams hparamsField hbody hbodyField hs rfl]
    rintro ⟨⟨-, hdeclared⟩, -⟩
    revert hdeclared
    decide +kernel

/-- A default value names a variable around the function. It is taken for the variable of that name which the body
declares, in the region of the function. So the variable around the function has no use and is deleted. -/
theorem default_value_means_body_variable :
    let t := shadowedTree
    let f := Facts.ofTree t .standard
    t.root.IsNested ∧ ∃ n params body, t.Reads .file .code n ∧ n.kind.isFunction = true ∧ params ∈ n.children ∧
      params.field = some .parameters ∧ body ∈ n.children ∧ body.field = some .body ∧
      (∃ r ∈ f.scopes.references, params.span.covers r.site.span = true ∧ ∃ id b, r.binding = some id ∧
        f.scopes.bindings[id]? = some b ∧ f.scopes.scopes[b.scope]?.map Scope.region = some ⟨.function, n.span⟩ ∧
        ∀ s ∈ b.sites, body.span.covers s.span = true) ∧
      (UnusedVariables.propose f).edits = [.delete ⟨0, 10⟩] := by
  intro t f
  obtain ⟨⟨hparams, hparamsField⟩, hbody, hbodyField⟩ := parts_shadowingFunction
  refine ⟨by decide +kernel, _, _, _, reads_shadowingFunction, by decide +kernel, hparams, hparamsField, hbody,
    hbodyField, ⟨⟨"a", ⟨⟨26, 27⟩, .plain⟩, 1, some 4⟩, by decide +kernel, rfl, 4, ?_⟩, by decide +kernel⟩
  exact ⟨⟨4, "a", .varName, 1, [⟨⟨42, 43⟩, .plain⟩], false⟩, rfl, by decide +kernel, by decide +kernel,
    by decide +kernel⟩

end ScopeTree

end ScriptTidy
