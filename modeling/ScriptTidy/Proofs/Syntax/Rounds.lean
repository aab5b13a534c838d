import Mathlib.Logic.Function.Iterate
import ScriptTidy.Proofs.Syntax.Walk

/-!
# The rounds of a walk

A walk is a loop over a stack. In each round it takes the node on top, meets it, and puts the node's children on the
stack, the last one first, so that the first one is on top. `Walker` is the state of the loop.

What the rounds keep is that the nodes met so far, followed by the walk over what is pending, are the walk over the
whole tree (`iterate_round`). As every round meets one node, the stack is empty after as many rounds as the tree has
nodes, and not before (`pending_iterate_round_eq_nil_iff`).
-/

namespace ScriptTidy

namespace Node

private theorem pendingSize_childVisits (n : Node) : pendingSize n.childVisits + 1 = n.size := by
  cases n
  rw [childVisits, pendingSize_map, size]
  rfl

private theorem length_walkFrom (pending : List Visit) : (walkFrom pending).length = pendingSize pending := by
  induction pending using walkFrom.induct with
  | case1 => rw [walkFrom, List.length_nil, pendingSize]
  | case2 v pending ih =>
    have hsize := pendingSize_childVisits v.node
    rw [walkFrom, List.length_cons, ih, pendingSize_append, pendingSize]
    omega

theorem length_walk (n : Node) : n.walk.length = n.size := by
  rw [walk, length_walkFrom]
  rfl

/-- A walk under way. -/
structure Walker where
  /-- The nodes that were met, in their order. -/
  met : List Visit
  /-- The nodes on the stack, the top one last. -/
  pending : List Visit

namespace Walker

def start (n : Node) : Walker := ⟨[], [⟨n, none⟩]⟩

/-- One round, if anything is pending. -/
def round (w : Walker) : Walker :=
  match w.pending.getLast? with
  | some v => ⟨w.met ++ [v], w.pending.dropLast ++ v.node.childVisits.reverse⟩
  | none => w

private theorem round_of_nil {w : Walker} (h : w.pending = []) : w.round = w := by
  rw [round, h]
  rfl

private theorem round_of_concat {w : Walker} {v : Visit} {below : List Visit} (h : w.pending = below ++ [v]) :
    w.round = ⟨w.met ++ [v], below ++ v.node.childVisits.reverse⟩ := by
  rw [round, h, List.getLast?_concat, List.dropLast_concat]

/-- What the loop still has to meet. -/
def ahead (w : Walker) : List Visit := walkFrom w.pending.reverse

private theorem ahead_eq_nil_iff (w : Walker) : w.ahead = [] ↔ w.pending = [] := by
  unfold ahead
  cases hrev : w.pending.reverse with
  | nil => simp [walkFrom, List.reverse_eq_nil_iff.1 hrev]
  | cons v rest =>
    have hne : w.pending ≠ [] := fun h => by simp [h] at hrev
    simp [walkFrom, hne]

/-- A round meets the first node of those ahead. -/
private theorem round_cases (w : Walker) :
    (w.ahead = [] ∧ w.round = w) ∨ ∃ v, w.ahead = v :: w.round.ahead ∧ w.round.met = w.met ++ [v] := by
  rcases List.eq_nil_or_concat w.pending with hnil | ⟨below, v, hconcat⟩
  · exact .inl ⟨w.ahead_eq_nil_iff.2 hnil, round_of_nil hnil⟩
  · rw [List.concat_eq_append] at hconcat
    refine .inr ⟨v, ?_, by rw [round_of_concat hconcat]⟩
    -- reversed, the stack has the children in source order in front of the rest
    rw [round_of_concat hconcat, ahead, ahead, hconcat, List.reverse_append, List.reverse_singleton,
      List.singleton_append, walkFrom, List.reverse_append, List.reverse_reverse]

/-- After `k` rounds the first `k` nodes of the walk are met, and the others are ahead. -/
theorem iterate_round (n : Node) (k : Nat) :
    (round^[k] (start n)).met = n.walk.take k ∧ (round^[k] (start n)).ahead = n.walk.drop k := by
  induction k with
  | zero => exact ⟨rfl, rfl⟩
  | succ k ih =>
    obtain ⟨hmet, hahead⟩ := ih
    rw [Function.iterate_succ_apply']
    rcases (round^[k] (start n)).round_cases with ⟨hnil, hround⟩ | ⟨v, hcons, hround⟩
    · have hle : n.walk.length ≤ k := List.drop_eq_nil_iff.1 (hahead.symm.trans hnil)
      rw [hround, hmet, hahead, List.take_of_length_le hle, List.take_of_length_le (by omega),
        List.drop_of_length_le hle, List.drop_of_length_le (by omega)]
      exact ⟨rfl, rfl⟩
    · have hdrop : n.walk.drop k = v :: (round^[k] (start n)).round.ahead := hahead.symm.trans hcons
      have hget : n.walk[k]? = some v := by
        rw [← List.head?_drop, hdrop]
        rfl
      rw [hround, hmet, List.take_add_one, hget, ← List.drop_drop, hdrop, List.drop_one]
      exact ⟨rfl, rfl⟩

/-- The loop ends when it has met as many nodes as the tree has. -/
theorem pending_iterate_round_eq_nil_iff (n : Node) (k : Nat) : (round^[k] (start n)).pending = [] ↔ n.size ≤ k := by
  rw [← ahead_eq_nil_iff, (iterate_round n k).2, List.drop_eq_nil_iff, length_walk]

end Walker

end Node

end ScriptTidy
