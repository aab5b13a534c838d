import Mathlib.Data.List.Perm.Basic
import ScriptTidy.Proofs.Names.Exports
import ScriptTidy.Proofs.Names.SofterTree

/-!
# What a pattern declares

When a node is read as a pattern, the outline descends through the patterns inside of it and declares the identifiers
that it comes to. `Node.descent` is what it declares on the way. Everything else that it finds in the pattern are
`Node.codeParts`, which it reads as code: default values, computed keys, and targets that are no patterns. The outline
of a pattern is made of the two (`outline_pattern`), and so a name that is declared in a pattern is declared by the
descent or inside of such a part.
-/

namespace ScriptTidy

namespace Node

variable {n m p : Node} {source : String} {how : BindingKind}

/-! ### The two parts of a pattern -/

/-- What is declared while a pattern is descended, from left to right. -/
def descent (source : String) (how : BindingKind) : Node → List Outline
  | .mk label children =>
    let n := Node.mk label children
    if Reading.isPattern label.kind then
      (Reading.pattern how).opening source n ++ descentInside (Reading.patternRole how n) children
    else []
where
  descentInside (role : Node → Option Reading) : List Node → List Outline
    | [] => []
    | c :: cs => (if role c = some (.pattern how) then c.descent source how else []) ++ descentInside role cs

/-- What is read as code while a pattern is descended. -/
def codeParts (how : BindingKind) : Node → List Node
  | .mk label children =>
    let n := Node.mk label children
    if Reading.isPattern label.kind then codeInside (Reading.patternRole how n) children else [n]
where
  codeInside (role : Node → Option Reading) : List Node → List Node
    | [] => []
    | c :: cs =>
      (match role c with
        | some (.pattern _) => c.codeParts how
        | some _ => [c]
        | none => []) ++ codeInside role cs

/-- What the descent declares in a child of a pattern. -/
def descentIn (source : String) (how : BindingKind) (n c : Node) : List Outline :=
  if Reading.patternRole how n c = some (.pattern how) then c.descent source how else []

/-- What is read as code in a child of a pattern. -/
def codeIn (how : BindingKind) (n c : Node) : List Node :=
  match Reading.patternRole how n c with
  | some (.pattern _) => c.codeParts how
  | some _ => [c]
  | none => []

theorem descent_eq (source : String) (how : BindingKind) (n : Node) : n.descent source how =
    if Reading.isPattern n.kind then
      (Reading.pattern how).opening source n ++ n.children.flatMap (descentIn source how n)
    else [] := by
  have hinside : ∀ cs, descent.descentInside source how (Reading.patternRole how n) cs =
      cs.flatMap (descentIn source how n) := by
    intro cs
    induction cs with
    | nil => rfl
    | cons c cs ih => rw [descent.descentInside, ih, List.flatMap_cons, descentIn]
  cases n with
  | mk label children =>
    rw [descent, hinside]
    rfl

private theorem codeParts_eq (how : BindingKind) (n : Node) : n.codeParts how =
    if Reading.isPattern n.kind then n.children.flatMap (codeIn how n) else [n] := by
  have hinside : ∀ cs, codeParts.codeInside how (Reading.patternRole how n) cs = cs.flatMap (codeIn how n) := by
    intro cs
    induction cs with
    | nil => rfl
    | cons c cs ih => rw [codeParts.codeInside, ih, List.flatMap_cons, codeIn]
  cases n with
  | mk label children =>
    rw [codeParts, hinside]
    rfl

/-- A child that is descended into declares its own descent, and has its own parts read as code. A child that is read
as code is such a part itself. -/
private theorem child_of_pattern_cases (source : String) (how : BindingKind) (n c : Node) :
    (outlineAs source (Reading.patternRole how n) c = [] ∧ descentIn source how n c = [] ∧ codeIn how n c = []) ∨
    (outlineAs source (Reading.patternRole how n) c = c.outline source (.pattern how) ∧
      descentIn source how n c = c.descent source how ∧ codeIn how n c = c.codeParts how) ∨
    (outlineAs source (Reading.patternRole how n) c = c.outline source .code ∧
      descentIn source how n c = [] ∧ codeIn how n c = [c]) := by
  unfold outlineAs descentIn codeIn
  rcases Reading.patternRole_cases n c with hrole | hrole | hrole <;> simp [hrole how]

private theorem outline_of_isPattern (h : Reading.isPattern n.kind = true) (source : String) (how : BindingKind) :
    n.outline source (.pattern how) =
      (Reading.pattern how).opening source n ++ n.children.flatMap (outlineAs source (Reading.patternRole how n)) := by
  rw [outline_eq, show (Reading.pattern how).settle n.kind = .pattern how by simp [Reading.settle, h]]
  rfl

/-- What is no pattern is read as code, even in the place of one. -/
private theorem outline_of_not_isPattern (h : ¬ Reading.isPattern n.kind = true) (source : String) (how : BindingKind) :
    n.outline source (.pattern how) = n.outline source .code := by
  rw [outline_eq, outline_eq source .code]
  simp [Reading.settle, h, Reading.stamp]

/-- The outline of a pattern is what the descent declares, and the outlines of the parts that are read as code. -/
theorem outline_pattern (source : String) (how : BindingKind) (n : Node) :
    (n.outline source (.pattern how)).Perm
      (n.descent source how ++ (n.codeParts how).flatMap fun c => c.outline source .code) := by
  induction n using Node.induction with
  | h label children ih =>
    rw [descent_eq, codeParts_eq]
    by_cases hk : Reading.isPattern (mk label children).kind = true
    · have hchild : ∀ c ∈ children, (outlineAs source (Reading.patternRole how (mk label children)) c).Perm
          (descentIn source how (mk label children) c ++
            (codeIn how (mk label children) c).flatMap fun c => c.outline source .code) := by
        intro c hc
        rcases child_of_pattern_cases source how (mk label children) c with
          ⟨houtline, hdescent, hcode⟩ | ⟨houtline, hdescent, hcode⟩ | ⟨houtline, hdescent, hcode⟩
        all_goals rw [houtline, hdescent, hcode]
        · exact .refl _
        · exact ih c hc
        · simp
      have hparts := (List.Perm.flatMap_left children hchild).trans (List.flatMap_append_perm children _ _).symm
      rw [outline_of_isPattern hk, if_pos hk, if_pos hk, List.flatMap_assoc, List.append_assoc]
      exact hparts.append_left _
    · rw [outline_of_not_isPattern hk, if_neg hk, if_neg hk]
      simp

/-- Read as a pattern, an identifier declares its text. -/
private theorem mem_opening_pattern {o : Outline} (h : o ∈ (Reading.pattern how).opening source n) :
    (n.kind = .identifier ∨ n.kind = .shorthandPropertyIdentifierPattern) ∧ n.text source ≠ "" ∧
      ∃ form, o = .declare how (n.text source) ⟨n.span, form⟩ := by
  have hdeclare : ∀ form, o ∈ Outline.declareNode source how form n →
      n.text source ≠ "" ∧ ∃ form, o = .declare how (n.text source) ⟨n.span, form⟩ := by
    intro form ho
    unfold Outline.declareNode at ho
    split at ho
    · cases ho
    · exact ⟨‹_›, form, List.mem_singleton.1 ho⟩
  simp only [Reading.opening] at h
  split at h
  case h_1 hk => exact ⟨.inl hk, hdeclare _ h⟩
  case h_2 hk => exact ⟨.inr hk, hdeclare _ h⟩
  case h_3 => cases h

/-- The descent declares identifiers of the pattern, each by its text. -/
theorem exists_of_mem_descent {o : Outline} (h : o ∈ p.descent source how) :
    ∃ m ∈ p.declarable, m.text source ≠ "" ∧ ∃ form, o = .declare how (m.text source) ⟨m.span, form⟩ := by
  induction p using Node.induction with
  | h label children ih =>
    rw [descent_eq] at h
    split at h
    case isFalse => cases h
    rcases List.mem_append.1 h with h | h
    · obtain ⟨hk, hdeclares⟩ := mem_opening_pattern h
      exact ⟨_, mem_declarable.2 ⟨mem_nodes_self _, hk⟩, hdeclares⟩
    · obtain ⟨c, hc, h⟩ := List.mem_flatMap.1 h
      unfold descentIn at h
      split at h
      case isFalse => cases h
      obtain ⟨m, hm, hdeclares⟩ := ih c hc h
      exact ⟨m, declarable_of_child hc hm, hdeclares⟩

end Node

/-! ### Mentions of a pattern -/

namespace Outline

open mentions

theorem mentionsAll_eq_flatMap (os : List Outline) : mentionsAll os = os.flatMap mentions := by
  induction os with
  | nil => rfl
  | cons o os ih => rw [mentionsAll, ih, List.flatMap_cons]

theorem mention_of_declare {os : List Outline} {how : BindingKind} {name : String} {site : Site}
    (h : .declare how name site ∈ os) : .declares how name site ∈ mentionsAll os := by
  rw [mentionsAll_eq_flatMap]
  exact List.mem_flatMap.2 ⟨_, h, List.mem_singleton_self _⟩

theorem mentionsAll_perm {os ps : List Outline} (h : os.Perm ps) : (mentionsAll os).Perm (mentionsAll ps) := by
  rw [mentionsAll_eq_flatMap, mentionsAll_eq_flatMap]
  exact h.flatMap_right _

end Outline

open Outline.mentions

/-! ### What is mentioned inside of a node that is read -/

namespace Node

variable {n c : Node} {source : String} {reading r' : Reading} {x : Mention}

theorem mentionsAll_outline (source : String) (reading : Reading) (n : Node) :
    mentionsAll (n.outline source reading) = mentionsAll ((reading.settle n.kind).own source n) ++
      n.children.flatMap fun c => mentionsAll (outlineAs source ((reading.settle n.kind).role source n) c) := by
  rw [outline_eq]
  simp [Reading.own, outlineParts]

/-- What a node mentions inside of a child that it reads, the child mentions. -/
private theorem IsNested.mention_in_child (h : n.IsNested) (hc : c ∈ n.children)
    (hrole : (reading.settle n.kind).role source n c = some r') (hx : x ∈ mentionsAll (n.outline source reading))
    (hin : c.span.covers x.span = true) : x ∈ mentionsAll (c.outline source r') := by
  rw [mentionsAll_outline, List.mem_append] at hx
  rcases hx with hx | hx
  · exact absurd hin (h.not_covers_own hc hrole (List.mem_map_of_mem hx))
  · obtain ⟨d, hd, hx⟩ := List.mem_flatMap.1 hx
    obtain rfl := h.eq_of_place hc hd (List.mem_map_of_mem hx) hin
    rwa [outlineAs, hrole] at hx

/-- What a method mentions inside of its computed name, the name mentions. -/
private theorem IsNested.mention_in_name (h : n.IsNested) (hreads : (reading.settle n.kind).readsName n = true)
    (hname : n.childByField? .name = some c) (hx : x ∈ mentionsAll (n.outline source reading))
    (hin : c.span.covers x.span = true) : x ∈ mentionsAll (c.outline source .code) := by
  rw [outline_eq, Outline.mentionsAll_stamp, Outline.mentionsAll_append, preamble_of_readsName hreads,
    outlineName_of_readsName hreads hname, List.nil_append, Outline.mentionsAll_enclose, List.mem_append] at hx
  rcases hx with hx | hx
  · exact hx
  · exact absurd hin (h.not_covers_parts hreads hname (List.mem_map_of_mem hx))

end Node

/-- What the tree mentions inside of a node that is read, the outline of the node mentions. -/
theorem Tree.Reads.mention_of_covers {t : Tree} {kind : ScopeKind} {r : Reading} {n : Node} (h : t.Reads kind r n)
    (hnested : t.root.IsNested) {x : Mention} (hx : x ∈ t.outline.mentions) (hin : n.span.covers x.span = true) :
    x ∈ mentionsAll (n.outline t.source r) := by
  induction h with
  | @top c hc =>
    rw [Tree.outline, Outline.mentions, Node.outlineAll_eq_flatMap, Outline.mentionsAll_flatMap] at hx
    obtain ⟨d, hd, hx⟩ := List.mem_flatMap.1 hx
    rwa [hnested.eq_of_place hc hd (List.mem_map_of_mem hx) hin] at hx
  | @child kind r r' n c hn hc hrole ih =>
    have hnode := hnested.of_mem hn.mem_nodes
    exact hnode.mention_in_child hc hrole (ih (Span.covers_trans (hnode.covers_child hc) hin)) hin
  | @name kind r n c hn hreads hname ih =>
    have hnode := hnested.of_mem hn.mem_nodes
    have hcovers := hnode.covers_child (Node.mem_children_of_field hname)
    exact hnode.mention_in_name hreads hname (ih (Span.covers_trans hcovers hin)) hin

private theorem Outline.Stands.mentions_subset {part os : List Outline} {inner outer : ScopeKind}
    (h : Outline.Stands part inner outer os) : mentionsAll part ⊆ mentionsAll os := by
  induction h with
  | here front back => simp
  | scope front back _ ih | exported front back _ ih =>
    intro x hx
    simpa [mentionsAll, Outline.mentions] using .inr (.inl (ih hx))

/-- What the outline of a node mentions that is read, the tree mentions. -/
theorem Tree.Reads.mention_mem {t : Tree} {kind : ScopeKind} {r : Reading} {n : Node} (h : t.Reads kind r n)
    {x : Mention} (hx : x ∈ mentionsAll (n.outline t.source r)) : x ∈ t.outline.mentions :=
  h.stands.mentions_subset hx

end ScriptTidy
