import Mathlib.Data.List.Perm.Subperm
import Mathlib.Order.Bounds.Basic
import ScriptTidy.Proofs.Rule.Removal

/-!
# The least set of variables that goes

A binding may go with a set of bindings if all its uses stand inside declarators of that set. The passes over the
candidates end with the least set that is closed under this rule (`removed_isLeast`). A look at a candidate does nothing
or adds one binding (`visit_cases`), so that a pass which adds nothing leaves a closed set behind (`isClosed_of_pass`),
and every pass in front of it adds a binding (`exists_passes`). By induction over the passes, nothing is added that is
not in every closed set (`subset_of_isClosed`). The least closed set knows nothing of the order of the candidates.
-/

namespace ScriptTidy

namespace UnusedVariables

/-- Every use of the binding stands inside a declarator of the set. -/
def MayGo (uses : Nat → List Reference) (all : List Candidate) (S : Set Nat) (id : Nat) : Prop :=
  ∀ ref ∈ uses id, ∃ c ∈ all, c.binding ∈ S ∧ c.span.covers ref.site.span = true

/-- A set of candidate bindings that has every candidate binding which may go with it. -/
structure IsClosed (uses : Nat → List Reference) (all : List Candidate) (S : Set Nat) : Prop where
  candidate : ∀ id ∈ S, ∃ c ∈ all, c.binding = id
  mem : ∀ c ∈ all, MayGo uses all S c.binding → c.binding ∈ S

variable {uses : Nat → List Reference} {all all' : List Candidate} {S T : Set Nat}

theorem MayGo.mono {id : Nat} (h : MayGo uses all S id) (hST : S ⊆ T) : MayGo uses all T id := by
  intro ref href
  obtain ⟨c, hc, hS, hcovers⟩ := h ref href
  exact ⟨c, hc, hST hS, hcovers⟩

private theorem isClosed_congr (h : ∀ c, c ∈ all ↔ c ∈ all') : IsClosed uses all = IsClosed uses all' := by
  funext S
  have hgo : ∀ id, MayGo uses all S id ↔ MayGo uses all' S id := by
    intro id
    simp only [MayGo, h]
  apply propext
  constructor
  · intro hS
    refine ⟨?_, fun c hc hmay => hS.mem c ((h c).2 hc) ((hgo _).2 hmay)⟩
    intro id hid
    obtain ⟨c, hc, rfl⟩ := hS.candidate id hid
    exact ⟨c, (h c).1 hc, rfl⟩
  · intro hS
    refine ⟨?_, fun c hc hmay => hS.mem c ((h c).1 hc) ((hgo _).1 hmay)⟩
    intro id hid
    obtain ⟨c, hc, rfl⟩ := hS.candidate id hid
    exact ⟨c, (h c).2 hc, rfl⟩

namespace Removal

variable {r r' : Removal}

/-- The bindings that go, each listed once, are those of candidates, and the spans that go are the spans of all their
candidates. -/
structure Accurate (all : List Candidate) (r : Removal) : Prop where
  nodup : r.bindings.Nodup
  candidate : ∀ id ∈ r.bindings, ∃ c ∈ all, c.binding = id
  mem_spans : ∀ s, s ∈ r.spans ↔ ∃ c ∈ all, c.binding ∈ r.bindings ∧ c.span = s

private theorem accurate_empty : Accurate all empty := ⟨by simp [empty], by simp [empty], by simp [empty]⟩

private theorem Accurate.isLive_eq_false_iff (h : Accurate all r) (id : Nat) :
    r.isLive (uses id) = false ↔ MayGo uses all {i | i ∈ r.bindings} id := by
  have hspan : ∀ ref : Reference, (∃ s ∈ r.spans, s.covers ref.site.span = true) ↔
      ∃ c ∈ all, c.binding ∈ r.bindings ∧ c.span.covers ref.site.span = true := by
    intro ref
    constructor
    · rintro ⟨s, hs, hcovers⟩
      obtain ⟨c, hc, hmem, rfl⟩ := (h.mem_spans s).1 hs
      exact ⟨c, hc, hmem, hcovers⟩
    · rintro ⟨c, hc, hmem, hcovers⟩
      exact ⟨c.span, (h.mem_spans _).2 ⟨c, hc, hmem, rfl⟩, hcovers⟩
  have hlive : r.isLive (uses id) = false ↔
      ∀ ref ∈ uses id, ∃ s ∈ r.spans, s.covers ref.site.span = true := by simp [isLive]
  rw [hlive]
  exact forall₂_congr fun ref _ => hspan ref

/-! ### One look at a candidate -/

theorem visit_cases (uses : Nat → List Reference) (h : Accurate all r) (c : Candidate) :
    (r.visit uses all c = r ∧ (c.binding ∈ r.bindings ∨ ¬ MayGo uses all {i | i ∈ r.bindings} c.binding)) ∨
    (r.visit uses all c = r.remove all c.binding ∧ c.binding ∉ r.bindings ∧
      MayGo uses all {i | i ∈ r.bindings} c.binding) := by
  rw [← h.isLive_eq_false_iff]
  unfold visit
  by_cases hmem : c.binding ∈ r.bindings
  · simp [hmem]
  · cases hlive : r.isLive (uses c.binding) <;> simp [hmem]

theorem Accurate.visit (h : Accurate all r) (uses : Nat → List Reference) {c : Candidate} (hc : c ∈ all) :
    Accurate all (r.visit uses all c) := by
  rcases visit_cases uses h c with ⟨heq, -⟩ | ⟨heq, hnew, -⟩
  · rw [heq]
    exact h
  · rw [heq]
    refine ⟨List.nodup_cons.2 ⟨hnew, h.nodup⟩, ?_, ?_⟩
    · intro id hid
      rcases List.mem_cons.1 hid with rfl | hid
      · exact ⟨c, hc, rfl⟩
      · exact h.candidate id hid
    · intro s
      simp only [remove, List.mem_append, List.mem_map, List.mem_filter, decide_eq_true_eq, List.mem_cons, h.mem_spans]
      constructor
      · rintro (⟨d, hd, hmem, rfl⟩ | ⟨d, ⟨hd, hsame⟩, rfl⟩)
        · exact ⟨d, hd, .inr hmem, rfl⟩
        · exact ⟨d, hd, .inl hsame, rfl⟩
      · rintro ⟨d, hd, hsame | hmem, rfl⟩
        · exact .inr ⟨d, ⟨hd, hsame⟩, rfl⟩
        · exact .inl ⟨d, hd, hmem, rfl⟩

/-- What goes stands in every closed set. -/
theorem subset_of_isClosed (hS : IsClosed uses all S) (h : Accurate all r) (hr : ∀ id ∈ r.bindings, id ∈ S)
    {c : Candidate} (hc : c ∈ all) : ∀ id ∈ (r.visit uses all c).bindings, id ∈ S := by
  rcases visit_cases uses h c with ⟨heq, -⟩ | ⟨heq, -, hmay⟩
  · rw [heq]
    exact hr
  · rw [heq]
    intro id hid
    rcases List.mem_cons.1 hid with rfl | hid
    · exact hS.mem c hc (hmay.mono hr)
    · exact hr id hid

/-! ### One pass -/

/-- A pass adds a binding, or every look at a candidate does nothing. -/
private theorem pass_cases (uses : Nat → List Reference) (h : Accurate all r) :
    (r.pass uses all = r ∧ ∀ c ∈ all, r.visit uses all c = r) ∨
      r.bindings.length < (r.pass uses all).bindings.length := by
  have hfold : ∀ cs : List Candidate, (∀ c ∈ cs, c ∈ all) → ∀ r, Accurate all r →
      (cs.foldl (Removal.visit uses all) r = r ∧ ∀ c ∈ cs, r.visit uses all c = r) ∨
        r.bindings.length < (cs.foldl (Removal.visit uses all) r).bindings.length := by
    intro cs
    induction cs with
    | nil => exact fun _ r _ => .inl ⟨rfl, by simp⟩
    | cons c cs ih =>
      intro hcs r h
      have hc := hcs c List.mem_cons_self
      have hrest := ih (fun d hd => hcs d (List.mem_cons_of_mem c hd)) _ (h.visit uses hc)
      rw [List.foldl_cons]
      rcases visit_cases uses h c with ⟨heq, -⟩ | ⟨heq, -⟩
      · rw [heq] at hrest ⊢
        simpa [heq] using hrest
      · -- the binding that was added stays
        have hlen : (r.visit uses all c).bindings.length = r.bindings.length + 1 := by
          rw [heq]
          rfl
        right
        rcases hrest with ⟨hfold, -⟩ | hlt
        · rw [hfold]
          omega
        · omega
  exact hfold all (fun _ h => h) r h

theorem isClosed_of_pass (h : Accurate all r) (hpass : r.pass uses all = r) :
    IsClosed uses all {id | id ∈ r.bindings} := by
  refine ⟨h.candidate, ?_⟩
  intro c hc hmay
  have hvisit : r.visit uses all c = r := by
    rcases pass_cases uses h with ⟨-, hvisit⟩ | hlt
    · exact hvisit c hc
    · rw [hpass] at hlt
      omega
  rcases visit_cases uses h c with ⟨-, hmem | hnot⟩ | ⟨heq, -, -⟩
  · exact hmem
  · exact absurd hmay hnot
  · have hlen := congrArg (fun x => x.bindings.length) (hvisit.symm.trans heq)
    simp [remove] at hlen

/-! ### All passes -/

/-- So many passes, each of which adds a binding, lead from one removal to another, to which a pass adds nothing. -/
inductive Passes (uses : Nat → List Reference) (all : List Candidate) : Nat → Removal → Removal → Prop
  | done {r : Removal} : r.pass uses all = r → Passes uses all 0 r r
  | again {n : Nat} {r r' : Removal} : r.bindings.length < (r.pass uses all).bindings.length →
    Passes uses all n (r.pass uses all) r' → Passes uses all (n + 1) r r'

private theorem Passes.pass_eq {n : Nat} (h : Passes uses all n r r') : r'.pass uses all = r' := by
  induction h with
  | done hpass => exact hpass
  | again _ _ ih => exact ih

private theorem Accurate.length_le (h : Accurate all r) : r.bindings.length ≤ all.length := by
  have hsubset : r.bindings ⊆ all.map (·.binding) := by
    intro id hid
    obtain ⟨c, hc, rfl⟩ := h.candidate id hid
    exact List.mem_map_of_mem hc
  have hle := (h.nodup.subperm hsubset).length_le
  rwa [List.length_map] at hle

/-- The passes end before the fuel does: there are no more bindings to add than there are candidates. -/
theorem exists_passes (uses : Nat → List Reference) (h : Accurate all r) {fuel : Nat}
    (hfuel : all.length ≤ r.bindings.length + fuel) :
    ∃ n ≤ fuel, Passes uses all n r (r.settle uses all fuel) := by
  induction fuel generalizing r with
  | zero =>
    refine ⟨0, Nat.le_refl 0, .done ?_⟩
    rcases pass_cases uses h with ⟨hpass, -⟩ | hlt
    · exact hpass
    · have hle := (pass_keeps (fun _ _ hc h => h.visit uses hc) h).length_le
      omega
  | succ fuel ih =>
    unfold settle
    dsimp only
    rcases pass_cases uses h with ⟨hpass, -⟩ | hlt
    · rw [if_pos (by rw [hpass])]
      exact ⟨0, Nat.zero_le _, .done hpass⟩
    · rw [if_neg (by omega)]
      have hnext := pass_keeps (fun _ _ hc h => h.visit uses hc) h
      obtain ⟨n, hn, hpasses⟩ := ih hnext (by omega)
      exact ⟨n + 1, Nat.succ_le_succ hn, .again hlt hpasses⟩

end Removal

open Removal

private theorem accurate_settle (uses : Nat → List Reference) (all : List Candidate) :
    Accurate all (empty.settle uses all all.length) :=
  settle_keeps (fun _ _ hc h => h.visit uses hc) accurate_empty all.length

private theorem passes_settle (uses : Nat → List Reference) (all : List Candidate) :
    ∃ n ≤ all.length, Passes uses all n empty (empty.settle uses all all.length) :=
  exists_passes uses accurate_empty (Nat.le_add_left _ _)

theorem isLeast_settle (uses : Nat → List Reference) (all : List Candidate) :
    IsLeast {S | IsClosed uses all S} {id | id ∈ removed uses all} := by
  obtain ⟨n, -, hpasses⟩ := passes_settle uses all
  refine ⟨isClosed_of_pass (accurate_settle uses all) hpasses.pass_eq, ?_⟩
  intro S hS
  have hboth : Accurate all (empty.settle uses all all.length) ∧
      ∀ id ∈ (empty.settle uses all all.length).bindings, id ∈ S :=
    settle_keeps (P := fun r => Accurate all r ∧ ∀ id ∈ r.bindings, id ∈ S)
      (fun r c hc h => ⟨h.1.visit uses hc, subset_of_isClosed hS h.1 h.2 hc⟩)
      ⟨accurate_empty, by simp [empty]⟩ all.length
  exact hboth.2

/-- The order of the candidates, and how often one is listed, make no difference. -/
private theorem mem_removed_congr (uses : Nat → List Reference) (h : ∀ c, c ∈ all ↔ c ∈ all') (id : Nat) :
    id ∈ removed uses all ↔ id ∈ removed uses all' := by
  have hleast := isLeast_settle uses all
  rw [isClosed_congr h] at hleast
  exact Set.ext_iff.1 (hleast.unique (isLeast_settle uses all')) id

/-- The loop over the candidates of some declarations ends, after no more passes that add a binding than there are
candidates. The bindings that go, each listed once, are the least set of candidate bindings that has a candidate binding
whenever all uses of it stand inside declarators of the set, and all candidate declarators of these bindings go. The
order of the declarations and that of the candidates make no difference. -/
theorem removed_isLeast (t : ScopeTree) (ss : List Statement) :
    let uses := t.referencesTo
    let all := candidates ss
    let gone := removed uses all
    (∃ n r, n ≤ all.length ∧ Removal.Passes uses all n .empty r ∧ r.bindings = gone ∧
      ∀ s, s ∈ r.spans ↔ ∃ c ∈ all, c.binding ∈ gone ∧ c.span = s) ∧
    gone.Nodup ∧
    IsLeast {S | IsClosed uses all S} {id | id ∈ gone} ∧
    (∀ ss' : List Statement, ss'.Perm ss → ∀ id, id ∈ removed uses (candidates ss') ↔ id ∈ gone) ∧
    ∀ all' : List Candidate, all'.Perm all → ∀ id, id ∈ removed uses all' ↔ id ∈ gone := by
  intro uses all gone
  have haccurate : Accurate all (empty.settle uses all all.length) := accurate_settle uses all
  obtain ⟨n, hn, hpasses⟩ := passes_settle uses all
  refine ⟨⟨n, _, hn, hpasses, rfl, haccurate.mem_spans⟩, haccurate.nodup, isLeast_settle uses all, ?_, ?_⟩
  · intro ss' hperm
    have hsame : (candidates ss').Perm all := (hperm.flatMap_right _).filterMap _
    exact mem_removed_congr uses fun c => hsame.mem_iff
  · intro all' hperm
    exact mem_removed_congr uses fun c => hperm.mem_iff

/-- A declaration of one variable. -/
private def single (start stop id : Nat) : Statement := ⟨(declaratorAt start stop id).node, [declaratorAt start stop id]⟩

/-- The declarators of `let a = 1; let b = a; var c = 2; var c = b; let d = 3; d;`. -/
def redeclaredChain : List Statement :=
  [single 4 9 0, single 15 20 1, single 26 31 2, single 37 42 2, single 48 53 3]

/-- The references of that text. -/
def usesOfChain : ScopeTree where
  scopes := #[]
  bindings := #[]
  references := #[⟨"a", ⟨⟨19, 20⟩, .plain⟩, 0, some 0⟩, ⟨"b", ⟨⟨41, 42⟩, .plain⟩, 0, some 1⟩,
    ⟨"d", ⟨⟨55, 56⟩, .plain⟩, 0, some 3⟩]
  declaredAt := []
  uses := #[[0], [1], [], [2]]

/-- The use of `b` goes with the second declaration of `c`, and only then does the use of `a` go with `b`. Read from the
back, the declarations lose the same variables. -/
theorem removed_isLeast_redeclared :
    removed usesOfChain.referencesTo (candidates redeclaredChain) = [0, 1, 2] ∧
    redeclaredChain.reverse.Perm redeclaredChain ∧
    ∀ id, id ∈ removed usesOfChain.referencesTo (candidates redeclaredChain.reverse) ↔ id ∈ [0, 1, 2] := by
  have hgone : removed usesOfChain.referencesTo (candidates redeclaredChain) = [0, 1, 2] := by decide +kernel
  obtain ⟨-, -, -, horder, -⟩ := removed_isLeast usesOfChain redeclaredChain
  have hperm : redeclaredChain.reverse.Perm redeclaredChain := List.reverse_perm _
  refine ⟨hgone, hperm, fun id => ?_⟩
  rw [← hgone]
  exact horder _ hperm id

end UnusedVariables

end ScriptTidy
