import Mathlib.Data.List.Basic
import ScriptTidy.Names.Usage
import ScriptTidy.Proofs.Syntax.Positions
import ScriptTidy.Proofs.Syntax.Rounds

/-!
# The list of uses

The list of uses keeps a table of places beside its occurrences. What is looked up in the table are the occurrences that
refer to the name, in their order (`referencesTo_ofOccurrences`).

The occurrences themselves come from one walk over the tree. The walk meets every node once, in pre-order and under its
own parent, and so each identifier of the tree is listed once (`walks_meet_each_node_once`).
-/

namespace ScriptTidy

namespace Usage

private theorem lookup_addPlace (name : String) (place : Nat) (table : List (String × Array Nat)) (other : String) :
    (addPlace name place table).lookup other =
      if other = name then some (((table.lookup name).getD #[]).push place) else table.lookup other := by
  induction table with
  | nil =>
    by_cases h : other = name
    · simp [addPlace, h]
    · simp [addPlace, h, List.lookup_cons, beq_eq_false_iff_ne.2 h]
  | cons entry rest ih =>
    obtain ⟨first, places⟩ := entry
    rw [addPlace]
    by_cases hfirst : first = name
    · subst hfirst
      rw [if_pos rfl]
      by_cases h : other = first
      · simp [h]
      · simp [h, List.lookup_cons, beq_eq_false_iff_ne.2 h]
    · rw [if_neg hfirst, List.lookup_cons, ih, List.lookup_cons, List.lookup_cons,
        beq_eq_false_iff_ne.2 (Ne.symm hfirst)]
      by_cases h : other = first
      · simp [h, hfirst]
      · simp [beq_eq_false_iff_ne.2 h]

def refersTo (name : String) (o : Occurrence) : Bool := o.role = .refers ∧ o.name = name

/-- A table of places grows by those of the references to each name. -/
private theorem lookup_foldl_notePlace (name : String) (entries : List (Occurrence × Nat))
    (table : List (String × Array Nat)) :
    (((entries.foldl notePlace table).lookup name).getD #[]).toList =
      ((table.lookup name).getD #[]).toList ++ (entries.filter fun e => refersTo name e.1).map (·.2) := by
  induction entries generalizing table with
  | nil => simp
  | cons entry entries ih =>
    rw [List.foldl_cons, ih, List.filter_cons, notePlace]
    by_cases hrole : entry.1.role = .refers
    · rw [if_pos hrole, lookup_addPlace]
      by_cases hname : entry.1.name = name
      · simp [refersTo, hrole, hname]
      · simp [refersTo, hname, Ne.symm hname]
    · simp [refersTo, hrole]

private theorem placesOf_ofOccurrences (os : List Occurrence) (name : String) :
    (ofOccurrences os).placesOf name = (os.zipIdx.filter fun e => refersTo name e.1).map (·.2) :=
  (lookup_foldl_notePlace name os.zipIdx []).trans (List.nil_append _)

private theorem map_fst_filter_zipIdx (p : Occurrence → Bool) (os : List Occurrence) :
    (os.zipIdx.filter fun e => p e.1).map (·.1) = os.filter p := by
  have hfilter := List.filter_map (f := Prod.fst) (p := p) (l := os.zipIdx)
  rw [List.zipIdx_map_fst] at hfilter
  exact hfilter.symm

/-- What the table leads to are the references to the name, in their order. -/
theorem referencesTo_ofOccurrences (os : List Occurrence) (name : String) :
    (ofOccurrences os).referencesTo name = os.filter (refersTo name) := by
  have hplace : ∀ e ∈ os.zipIdx.filter fun e => refersTo name e.1, os[e.2]? = some e.1 := fun e he =>
    List.mem_zipIdx_iff_getElem?.1 (List.mem_filter.1 he).1
  calc (ofOccurrences os).referencesTo name
      = (os.zipIdx.filter fun e => refersTo name e.1).filterMap fun e => os[e.2]? := by
        rw [referencesTo, placesOf_ofOccurrences, List.filterMap_map]
        rfl
    _ = (os.zipIdx.filter fun e => refersTo name e.1).map (·.1) := by
        rw [List.filterMap_congr hplace, ← Function.comp_def, List.filterMap_eq_map]
    _ = os.filter (refersTo name) := map_fst_filter_zipIdx _ os

private theorem referenceCount_ofOccurrences (os : List Occurrence) (name : String) :
    (ofOccurrences os).referenceCount name = ((ofOccurrences os).referencesTo name).length := by
  rw [referencesTo_ofOccurrences, referenceCount, placesOf_ofOccurrences, ← map_fst_filter_zipIdx, List.length_map,
    List.length_map]

theorem isReferenced_ofOccurrences_iff {os : List Occurrence} {name : String} :
    (ofOccurrences os).isReferenced name = true ↔ (ofOccurrences os).referencesTo name ≠ [] := by
  rw [isReferenced, referenceCount_ofOccurrences, decide_eq_true_iff, List.length_pos_iff]

end Usage

/-! ### From the walk to the list -/

open Node (Walker)

/-- The walk over a tree meets each node once. -/
structure Node.IsMetOnce (n : Node) : Prop where
  /-- Each round of the loop meets one more node. It ends when it has met as many as the tree has. -/
  rounds : ∀ k, (Walker.round^[k] (.start n)).met = n.walk.take k ∧
    ((Walker.round^[k] (.start n)).pending = [] ↔ n.size ≤ k)
  length : n.walk.length = n.size
  /-- It meets them in the order of the recursion. -/
  preorder : n.walk = n.visits none
  /-- It goes along the positions, and hands each node that stands there the one that stands a step above. -/
  along : n.walk.map some = n.positions.map (n.visitAt? none)
  /-- All paths to nodes are positions. -/
  all : ∀ path, path ∈ n.positions ↔ ∃ m, n.at? path = some m
  /-- No position comes twice, and a child comes behind its parent and all that is in the siblings in front. -/
  sorted : n.positions.Pairwise (· < ·)
  parent : ∀ path i, n.at? (path ++ [i]) = (n.at? path).bind fun p => p.children[i]?

private theorem Node.isMetOnce (n : Node) : n.IsMetOnce where
  rounds k := ⟨(Walker.iterate_round n k).1, Walker.pending_iterate_round_eq_nil_iff n k⟩
  length := n.length_walk
  preorder := n.walk_eq_visits
  along := n.map_some_walk
  all _ := mem_positions
  sorted := n.pairwise_positions
  parent := n.at?_concat

namespace Usage

private theorem isSome_occurrence? (source : String) (n : Node) (path : List Nat) :
    ((n.visitAt? none path).bind (occurrence? source)).isSome = (n.at? path).any (·.kind.isIdentifier) := by
  unfold Node.visitAt? occurrence?
  cases n.at? path with
  | none => rfl
  | some m => cases hk : m.kind.isIdentifier <;> simp [hk]

/-- The occurrences are those at the positions where an identifier stands. -/
private theorem map_some_occurrences (t : Tree) : (ofTree t).occurrences.map some =
    (t.root.positions.filter fun path => (t.root.at? path).any (·.kind.isIdentifier)).map fun path =>
      (t.root.visitAt? none path).bind (occurrence? t.source) := by
  have hoccurrences := map_some_filterMap t.root.map_some_walk (occurrence? t.source)
  simp only [isSome_occurrence?] at hoccurrences
  exact hoccurrences

/-- A walk over any tree meets each node once, in pre-order and under its parent. So the nodes of a kind, the faults and
the identifiers that it finds are those at the positions where such a node stands, each once and in the order of the
positions. The references to a name are the occurrences that refer to it. -/
theorem walks_meet_each_node_once (t : Tree) :
    let usage := ofTree t
    (∀ n : Node, n.IsMetOnce ∧
      (∀ kind, (n.nodesOfKind kind).map some =
        (n.positions.filter fun path => (n.at? path).any (·.kind = kind)).map fun path => n.at? path) ∧
      n.faultCount = n.positions.countP fun path => (n.at? path).any (·.faulty)) ∧
    usage.occurrences.map some =
      ((t.root.positions.filter fun path => (t.root.at? path).any (·.kind.isIdentifier)).map fun path =>
        (t.root.visitAt? none path).bind (occurrence? t.source)) ∧
    ∀ name, usage.referencesTo name = (usage.occurrences.filter fun o => o.role = .refers ∧ o.name = name) ∧
      usage.referenceCount name = (usage.referencesTo name).length ∧
      (usage.isReferenced name = true ↔ usage.referencesTo name ≠ []) := by
  intro usage
  refine ⟨fun n => ⟨n.isMetOnce, n.map_some_nodesOfKind, n.faultCount_eq⟩, map_some_occurrences t, fun name => ?_⟩
  exact ⟨referencesTo_ofOccurrences _ name, referenceCount_ofOccurrences _ name, isReferenced_ofOccurrences_iff⟩

end Usage

end ScriptTidy
