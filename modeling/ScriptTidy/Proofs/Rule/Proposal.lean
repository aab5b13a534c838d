import ScriptTidy.Rule.Check

/-!
# Proposals and their merged edits
-/

namespace ScriptTidy

@[simp] theorem Proposal.edits_concat (ps : List Proposal) : (concat ps).edits = ps.flatMap (·.edits) := by
  induction ps with
  | nil => rfl
  | cons p ps ih =>
    rw [List.flatMap_cons, ← ih]
    rfl

@[simp] theorem Proposal.changes_concat (ps : List Proposal) : (concat ps).changes = ps.flatMap (·.changes) := by
  induction ps with
  | nil => rfl
  | cons p ps ih =>
    rw [List.flatMap_cons, ← ih]
    rfl

/-- A rule whose edits can be merged has nothing else to fail on. -/
theorem Rule.check_of_merge (rule : Rule) {f : Facts} {set : EditSet}
    (h : EditSet.merge (rule.propose f).edits = .ok set) : ∃ result, rule.check f = .ok (set, result) := by
  simp only [check, h]
  exact ⟨_, rfl⟩

end ScriptTidy
