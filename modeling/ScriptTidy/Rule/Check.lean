import ScriptTidy.Rule.Bindings
import ScriptTidy.Rule.Casing
import ScriptTidy.Rule.UnusedImports
import ScriptTidy.Rule.UnusedVariables

/-!
# Checking a rule

The proposal of a rule, merged into a set of edits, with the account that a user gets to see.
-/

namespace ScriptTidy

/-- What a rule changed. -/
structure RuleResult where
  rule : Rule
  /-- The number of merged edits. -/
  editsApplied : Nat
  /-- How much the rule changed, in its own measure. -/
  count : Nat
  changes : List String
  /-- A headline, and behind it what was left alone. -/
  summaryLines : List String
  deriving DecidableEq, Repr

namespace RuleResult

/-- The headline. -/
def summary (r : RuleResult) : String := r.summaryLines.headD ""

def changed (r : RuleResult) : Bool := 0 < r.editsApplied

end RuleResult

namespace Rule

/-- What a rule wants to change. -/
def propose : Rule → Facts → Proposal
  | unusedImports => UnusedImports.propose
  | unusedVariables => UnusedVariables.propose
  | casing => Casing.propose
  | bindings => Bindings.propose

/-- A rule's proposal in one sentence. -/
def headline : Rule → Proposal → String
  | unusedImports => UnusedImports.headline
  | unusedVariables => UnusedVariables.headline
  | casing => Casing.headline
  | bindings => Bindings.headline

/-- The merged edits of a rule, and its account of them. -/
def check (rule : Rule) (f : Facts) : Except Conflict (EditSet × RuleResult) :=
  let p := rule.propose f
  match EditSet.merge p.edits with
  | .error c => .error c
  | .ok edits => .ok (edits, ⟨rule, edits.size, p.count, p.changes, rule.headline p :: p.skipped⟩)

end Rule

end ScriptTidy
