import ScriptTidy.Proofs.Edit.Deletions
import ScriptTidy.Proofs.Rule.Bindings
import ScriptTidy.Proofs.Rule.Casing
import ScriptTidy.Proofs.Rule.LeastRemoval
import ScriptTidy.Proofs.Rule.Proposal
import ScriptTidy.Proofs.Rule.UnusedImports

/-!
# Rules with nothing left to do

`Rule.IsSettled` says for each rule what a file looks like on which the rule has nothing to do: nothing can be taken out
of the imports, every variable that may go is used, something stands against every rename and against every change from
`var` to `let`. That is so exactly if the rule proposes no edit (`isSettled_iff`). Then its check succeeds
(`check_of_isSettled`), and otherwise a check that succeeds reports a change (`isSettled_of_check`).
-/

namespace ScriptTidy

namespace UnusedImports

variable {f : Facts}

/-! ### Imports -/

/-- Nothing can be taken out of the clause: all its names are used, or it has a namespace and a list but no default
import, and all of the one is used and nothing of the other. -/
def Clause.IsSettled (c : Clause) : Prop :=
  (∀ i ∈ c.names, i.used = true) ∨
    c.default? = none ∧ ∃ w, c.whole? = some w ∧ c.specifiers ≠ [] ∧ ∀ i ∈ c.specifiers, i.used = !w.used

/-- The specifiers of a clause stand in a list. -/
private theorem list_of_specifiers (f : Facts) (n : Node) (h : (Clause.ofNode f n).specifiers ≠ []) :
    ∃ list, (Clause.ofNode f n).list? = some list := by
  have hfold : ∀ (parts : List Node) (c : Clause), (c.specifiers ≠ [] → ∃ list, c.list? = some list) →
      (parts.foldl (Clause.add f) c).specifiers ≠ [] → ∃ list, (parts.foldl (Clause.add f) c).list? = some list := by
    intro parts
    induction parts with
    | nil => exact fun c hc => hc
    | cons part parts ih =>
      intro c hc
      refine ih _ ?_
      unfold Clause.add
      split
      · exact hc
      · split
        · exact hc
        · exact hc
      · exact fun _ => ⟨part, rfl⟩
      · exact hc
  exact hfold n.properChildren .empty (fun hne => absurd rfl hne) h

namespace Clause

variable {c : Clause} {source : String}

private theorem specifierEdits_eq_nil_iff (hlist : c.specifiers ≠ [] → ∃ list, c.list? = some list) :
    c.specifierEdits source = [] ↔
      (∀ i ∈ c.specifiers, i.used = true) ∨ c.default? = none ∧ ∀ i ∈ c.specifiers, i.used = false := by
  unfold specifierEdits
  dsimp only
  by_cases hall : ∀ i ∈ c.specifiers, i.used = true
  · rw [if_pos (List.length_filter_eq_length_iff.2 hall)]
    exact iff_of_true rfl (.inl hall)
  rw [if_neg fun hlength => hall (List.length_filter_eq_length_iff.1 hlength)]
  have hne : c.specifiers ≠ [] := by
    rintro hnil
    simp [hnil] at hall
  by_cases hnone : ∀ i ∈ c.specifiers, i.used = false
  · have hkept : (c.specifiers.filter (·.used)).isEmpty = true := by
      rw [List.isEmpty_iff, List.filter_eq_nil_iff]
      simpa using hnone
    obtain ⟨list, hlist⟩ := hlist hne
    rw [if_pos hkept, hlist]
    cases hdefault : c.default? with
    | none => exact iff_of_true rfl (.inr ⟨rfl, hnone⟩)
    | some d => simp [hall]
  · have hkept : ¬ (c.specifiers.filter (·.used)).isEmpty = true := by
      rw [List.isEmpty_iff, List.filter_eq_nil_iff]
      simpa using hnone
    have hhead := List.head?_eq_some_head hne
    have hlast := List.getLast?_eq_some_getLast hne
    rw [if_neg hkept, hhead, hlast]
    simp [hall, hnone]

/-- A clause that loses nothing uses its default import, if that is not its only name. -/
private theorem used_of_defaultEdits {d : ImportedName} (hlist : c.specifiers ≠ [] → ∃ list, c.list? = some list)
    (hdefault : c.default? = some d) (hd : c.defaultEdits = []) (hused : ∃ i ∈ c.names, i.used = true) :
    d.used = true := by
  unfold defaultEdits at hd
  rw [hdefault] at hd
  cases hrest : c.rest? with
  | some rest =>
    rw [hrest] at hd
    by_contra hnot
    simp [hnot] at hd
  | none =>
    simp only [rest?, Option.or_eq_none_iff, Option.map_eq_none_iff] at hrest
    have hspecifiers : c.specifiers = [] := by
      by_contra hne
      obtain ⟨list, hl⟩ := hlist hne
      rw [hl] at hrest
      cases hrest.2
    obtain ⟨i, hi, hiused⟩ := hused
    rw [mem_names, hdefault, hrest.1, hspecifiers] at hi
    rcases hi with hi | hi | hi
    · cases hi
      exact hiused
    · cases hi
    · cases hi

/-- A clause that has a default import and loses nothing uses all its names. -/
private theorem used_of_partEdits {d : ImportedName} (hlist : c.specifiers ≠ [] → ∃ list, c.list? = some list)
    (hdefault : c.default? = some d) (hused : ∃ i ∈ c.names, i.used = true) (hedits : c.partEdits source = []) :
    ∀ i ∈ c.names, i.used = true := by
  rw [partEdits, List.append_eq_nil_iff, List.append_eq_nil_iff, specifierEdits_eq_nil_iff hlist, hdefault] at hedits
  obtain ⟨⟨hd, hw⟩, hspecifiers | ⟨hnone, -⟩⟩ := hedits
  · intro i hi
    rcases mem_names.1 hi with hi | hi | hi
    · rw [hdefault] at hi
      cases hi
      exact used_of_defaultEdits hlist hdefault hd hused
    · unfold namespaceEdits at hw
      rw [hi, hdefault] at hw
      by_contra hnot
      simp [hnot] at hw
    · exact hspecifiers i hi
  · cases hnone

/-- Where the listed names are either all used or all unused, and some other name is not so, that is the namespace. -/
private theorem isSettled_of_specifiers {used : Bool} {i j : ImportedName} (hdefault : c.default? = none)
    (hspecifiers : ∀ k ∈ c.specifiers, k.used = used) (hi : i ∈ c.names) (hiused : i.used = used)
    (hj : j ∈ c.names) (hjused : j.used = !used) : c.IsSettled := by
  rw [mem_names, hdefault] at hi hj
  have hwhole : c.whole? = some j := by
    rcases hj with hj | hj | hj
    · cases hj
    · exact hj
    · simp [hspecifiers j hj] at hjused
  refine .inr ⟨hdefault, j, hwhole, ?_, fun k hk => by rw [hspecifiers k hk, hjused, Bool.not_not]⟩
  rintro hnil
  rw [hnil, hwhole] at hi
  rcases hi with hi | hi | hi
  · cases hi
  · cases hi
    simp [hjused] at hiused
  · cases hi

/-- Where some names of a clause are used and some are not, the clause is settled exactly if there is no edit. -/
private theorem partEdits_eq_nil_iff (hlist : c.specifiers ≠ [] → ∃ list, c.list? = some list)
    (hused : ∃ i ∈ c.names, i.used = true) (hunused : ∃ i ∈ c.names, i.used = false) :
    c.partEdits source = [] ↔ c.IsSettled := by
  obtain ⟨i, hi, hiused⟩ := hused
  obtain ⟨j, hj, hjunused⟩ := hunused
  have hsome : ¬ ∀ k ∈ c.names, k.used = true := by
    intro hall
    rw [hall j hj] at hjunused
    cases hjunused
  cases hdefault : c.default? with
  | some d =>
    constructor
    · exact fun hedits => absurd (used_of_partEdits hlist hdefault ⟨i, hi, hiused⟩ hedits) hsome
    · rintro (hall | ⟨hnone, -⟩)
      · exact absurd hall hsome
      · rw [hdefault] at hnone
        cases hnone
  | none =>
    have hd : c.defaultEdits = [] := by simp [defaultEdits, hdefault]
    have hw : c.namespaceEdits = [] := by
      unfold namespaceEdits
      rw [hdefault]
      split <;> simp_all
    rw [partEdits, hd, hw, List.nil_append, List.nil_append, specifierEdits_eq_nil_iff hlist, hdefault]
    constructor
    · rintro (hall | ⟨-, hnone⟩)
      · exact isSettled_of_specifiers hdefault hall hi hiused hj hjunused
      · exact isSettled_of_specifiers hdefault hnone hj hjunused hi hiused
    · rintro (hall | ⟨-, w, -, -, hspecifiers⟩)
      · exact absurd hall hsome
      · cases hwused : w.used with
        | true => exact .inr ⟨rfl, fun k hk => by rw [hspecifiers k hk, hwused]; rfl⟩
        | false => exact .inl fun k hk => by rw [hspecifiers k hk, hwused]; rfl

end Clause

private theorem edits_proposeFor_eq_nil_iff (s : Node) : (proposeFor f s).edits = [] ↔
    ∀ clause, s.childOfKind? .importClause = some clause → (Clause.ofNode f clause).IsSettled := by
  unfold proposeFor
  cases hclause : s.childOfKind? .importClause with
  | none => simp [Proposal.none]
  | some clause =>
    simp only [Option.some.injEq, forall_eq']
    have hlist := list_of_specifiers f clause
    generalize Clause.ofNode f clause = c at hlist
    by_cases hall : ∀ i ∈ c.names, i.used = true
    · have hnone : (c.names.filter (!·.used)).isEmpty = true := by
        rw [List.isEmpty_iff, List.filter_eq_nil_iff]
        simpa using hall
      rw [if_pos hnone]
      exact iff_of_true rfl (.inl hall)
    · have hsome : ¬ (c.names.filter (!·.used)).isEmpty = true := by
        rw [List.isEmpty_iff, List.filter_eq_nil_iff]
        simpa using hall
      have hunused : ∃ i ∈ c.names, i.used = false := by simpa using hall
      rw [if_neg hsome]
      by_cases hused : ∃ i ∈ c.names, i.used = true
      · have hlength : (c.names.filter (!·.used)).length ≠ c.names.length := by
          intro hlength
          obtain ⟨i, hi, hiused⟩ := hused
          have hi' := List.length_filter_eq_length_iff.1 hlength i hi
          simp [hiused] at hi'
        simp only [if_neg hlength]
        exact Clause.partEdits_eq_nil_iff hlist hused hunused
      · -- no name is used, and the whole statement goes
        have hlength : (c.names.filter (!·.used)).length = c.names.length := by
          refine List.length_filter_eq_length_iff.2 fun i hi => ?_
          by_contra hi'
          exact hused ⟨i, hi, by simpa using hi'⟩
        simp only [if_pos hlength, List.cons_ne_self, false_iff]
        rintro (hsettled | ⟨-, w, hw, hne, hspecifiers⟩)
        · exact hall hsettled
        · obtain ⟨i, hi⟩ := List.exists_mem_of_ne_nil _ hne
          cases hwused : w.used with
          | true => exact hused ⟨w, by simp [Clause.names, hw], hwused⟩
          | false => exact hused ⟨i, by simp [Clause.names, hi], by rw [hspecifiers i hi, hwused]; rfl⟩

/-- Nothing can be taken out of the import statements of a file. -/
def IsSettled (f : Facts) : Prop :=
  ∀ s ∈ f.tree.statements, s.kind = .importStatement → ∀ clause, s.childOfKind? .importClause = some clause →
    (Clause.ofNode f clause).IsSettled

theorem isSettled_iff : IsSettled f ↔ (propose f).edits = [] := by
  simp only [propose, Proposal.edits_concat, List.flatMap_map, List.flatMap_eq_nil_iff, List.mem_filter,
    decide_eq_true_eq, edits_proposeFor_eq_nil_iff]
  constructor
  · exact fun h s hs => h s hs.1 hs.2
  · exact fun h s hs hk => h s ⟨hs, hk⟩

end UnusedImports

namespace UnusedVariables

variable {f : Facts}

/-! ### Variables -/

/-- If nothing goes, something refers to every candidate. -/
private theorem removed_eq_nil_iff (uses : Nat → List Reference) (all : List Candidate) :
    removed uses all = [] ↔ ∀ c ∈ all, uses c.binding ≠ [] := by
  obtain ⟨hclosed, hleast⟩ := isLeast_settle uses all
  constructor
  · intro hnil c hc huses
    have hmem : c.binding ∈ {id | id ∈ removed uses all} := by
      refine hclosed.mem c hc fun r hr => ?_
      rw [huses] at hr
      cases hr
    rw [hnil] at hmem
    cases hmem
  · intro huses
    have hempty : IsClosed uses all ∅ := by
      refine ⟨fun id hid => absurd hid (Set.notMem_empty id), fun c hc hmay => ?_⟩
      obtain ⟨r, hr⟩ := List.exists_mem_of_ne_nil _ (huses c hc)
      obtain ⟨d, -, hd, -⟩ := hmay r hr
      exact absurd hd (Set.notMem_empty d.binding)
    refine List.eq_nil_iff_forall_not_mem.2 fun id hid => ?_
    exact absurd (hleast hempty hid) (Set.notMem_empty id)

private theorem edits_of_goes {gone : List Nat} {s : Statement} {x : Declarator} (hx : x ∈ s.declarators)
    (hgoes : x.goes gone = true) : (proposeFor gone s).edits ≠ [] := by
  have hsome : ¬ (s.declarators.filter (·.goes gone)).isEmpty = true := by
    rw [List.isEmpty_iff]
    exact List.ne_nil_of_mem (List.mem_filter.2 ⟨hx, hgoes⟩)
  unfold proposeFor
  dsimp only
  rw [if_neg hsome]
  dsimp only
  split
  · exact List.cons_ne_nil _ _
  · rename_i hlength
    have hleft : ∃ i ∈ s.declarators.map fun d => (d.node.span, d.goes gone), i.2 = false := by
      by_contra hnone
      refine hlength (List.length_filter_eq_length_iff.2 fun y hy => ?_)
      by_contra hstays
      exact hnone ⟨_, List.mem_map_of_mem hy, by simpa using hstays⟩
    have hmarked : ∃ i ∈ s.declarators.map fun d => (d.node.span, d.goes gone), i.2 = true :=
      ⟨_, List.mem_map_of_mem hx, hgoes⟩
    rw [declaratorDeletions, ne_eq, List.map_eq_nil_iff]
    exact runDeletions_ne_nil (.inr hleft) (.inr hmarked)

/-- Something refers to every variable that may go. -/
def IsSettled (f : Facts) : Prop := ∀ c ∈ candidates (statements f), f.scopes.referencesTo c.binding ≠ []

theorem isSettled_iff : IsSettled f ↔ (propose f).edits = [] := by
  rw [IsSettled, ← removed_eq_nil_iff]
  simp only [propose, Proposal.edits_concat, List.flatMap_map, List.flatMap_eq_nil_iff]
  constructor
  · intro hnil s _
    have hstays : s.declarators.filter (·.goes []) = [] := by
      rw [List.filter_eq_nil_iff]
      intro x _
      cases hx : x.binding? <;> simp [Declarator.goes, hx]
    rw [hnil, proposeFor]
    simp [hstays, Proposal.none]
  · intro hedits
    refine List.eq_nil_iff_forall_not_mem.2 fun id hid => ?_
    obtain ⟨c, hc, rfl⟩ := (isLeast_settle f.scopes.referencesTo (candidates (statements f))).1.candidate id hid
    obtain ⟨x, hx, hcandidate⟩ := List.mem_filterMap.1 hc
    obtain ⟨s, hs, hx⟩ := List.mem_flatMap.1 hx
    obtain ⟨id, hid', rfl⟩ := Option.map_eq_some_iff.1 hcandidate
    refine edits_of_goes hx ?_ (hedits s hs)
    simpa [Declarator.goes, hid'] using hid

end UnusedVariables

namespace Casing

variable {f : Facts}

/-! ### Names -/

private theorem renamesFrom_eq_nil_iff (bs : List Binding) : renamesFrom f [] bs = [] ↔
    ∀ b ∈ bs, concerns f b = true → ∃ obstacle, plan f [] b = .error obstacle := by
  induction bs with
  | nil => simp [renamesFrom]
  | cons b bs ih =>
    rw [List.forall_mem_cons, ← ih, renamesFrom]
    split
    · rename_i hconcerns
      split
      · rename_i new hnew
        simp [hconcerns, hnew]
      · rename_i obstacle hobstacle
        simp [hobstacle]
    · rename_i hconcerns
      simp [hconcerns]

/-- Something stands against every rename. -/
def IsSettled (f : Facts) : Prop :=
  ∀ b ∈ f.scopes.bindings, concerns f b = true → ∃ obstacle, plan f [] b = .error obstacle

theorem isSettled_iff (hsites : ∀ b ∈ f.scopes.bindings, b.sites ≠ []) :
    IsSettled f ↔ (propose f).edits = [] := by
  have hrenames : IsSettled f ↔ renames f = [] := by
    rw [renames, renamesFrom_eq_nil_iff]
    simp [IsSettled]
  rw [hrenames, (propose_eq f).1]
  constructor
  · intro hnil
    rw [hnil]
    rfl
  · intro hedits
    refine List.eq_nil_iff_forall_not_mem.2 fun r hr => ?_
    have hnone := List.flatMap_eq_nil_iff.1 hedits r hr
    have hsome := hsites _ (binding_mem_of_mem_renames hr)
    simp [Rename.edits, renameSites, hsome] at hnone

end Casing

namespace Bindings

variable {f : Facts}

/-! ### Declarations by `var` -/

/-- Something stands against the change of every declaration by `var`. -/
def IsSettled (f : Facts) : Prop :=
  ∀ v ∈ f.tree.root.walk, ∀ w, keyword? v.node = some w → ∃ obstacle, obstacle? f v = some obstacle

theorem isSettled_iff : IsSettled f ↔ (propose f).edits = [] := by
  rw [List.eq_nil_iff_forall_not_mem]
  simp only [mem_edits_propose]
  constructor
  · rintro h e ⟨v, hv, w, hw, hnone, -⟩
    obtain ⟨obstacle, hsome⟩ := h v hv w hw
    rw [hnone] at hsome
    cases hsome
  · intro h v hv w hw
    cases ho : obstacle? f v with
    | some obstacle => exact ⟨obstacle, rfl⟩
    | none => exact absurd ⟨v, hv, w, hw, ho, rfl⟩ (h _)

end Bindings

/-! ### Any rule -/

namespace Rule

/-- A rule has nothing to do on a file. -/
def IsSettled : Rule → Facts → Prop
  | unusedImports => UnusedImports.IsSettled
  | unusedVariables => UnusedVariables.IsSettled
  | casing => Casing.IsSettled
  | bindings => Bindings.IsSettled

variable {rule : Rule} {t : Tree} {settings : Settings}

theorem isSettled_iff : rule.IsSettled (.ofTree t settings) ↔ (rule.propose (.ofTree t settings)).edits = [] := by
  cases rule with
  | unusedImports => exact UnusedImports.isSettled_iff
  | unusedVariables => exact UnusedVariables.isSettled_iff
  | casing =>
    refine Casing.isSettled_iff fun b hb => ?_
    obtain ⟨id, hid⟩ := Array.getElem?_of_mem hb
    exact (ScopeRecord.sound_outline t).sites_ne_nil hid
  | bindings => exact Bindings.isSettled_iff

/-- The set of edits of a rule is empty exactly if it is settled, and the rule reports just that. -/
theorem isSettled_of_check {set : EditSet} {result : RuleResult}
    (h : rule.check (.ofTree t settings) = .ok (set, result)) :
    (rule.IsSettled (.ofTree t settings) ↔ set.isEmpty = true) ∧ (result.changed = false ↔ set.isEmpty = true) := by
  unfold check at h
  dsimp only at h
  split at h
  · cases h
  · rename_i hmerge
    cases h
    refine ⟨isSettled_iff.trans (EditSet.isEmpty_of_merge hmerge).symm, ?_⟩
    show decide (0 < set.edits.length) = false ↔ set.edits.isEmpty = true
    rw [decide_eq_false_iff_not, Nat.not_lt, Nat.le_zero, List.length_eq_zero_iff, List.isEmpty_iff]

theorem check_of_isSettled (h : rule.IsSettled (.ofTree t settings)) :
    ∃ set result, rule.check (.ofTree t settings) = .ok (set, result) := by
  have hmerge : EditSet.merge (rule.propose (.ofTree t settings)).edits = .ok ⟨[], 0⟩ := by
    rw [isSettled_iff.1 h]
    simp [EditSet.merge, PlacedEdit.number, EditSet.Sweep.run, EditSet.Sweep.empty]
  exact ⟨_, check_of_merge rule hmerge⟩

end Rule

end ScriptTidy
