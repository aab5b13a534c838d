import ScriptTidy.Names.Summary
import ScriptTidy.Rule.Check

/-!
# Pipelines

A pipeline runs rules on a text, one after the other, and parses the text again for every rule. A run gives the new
text with an account of the changes, or fails and leaves the text as it was.
-/

namespace ScriptTidy

/-- Why a run failed. -/
inductive RunError where
  /-- There is no syntax tree. -/
  | parse (cause : ParseFailure)
  /-- A rule proposed edits that are in conflict. -/
  | conflict (rule : Rule) (cause : Conflict)
  /-- The edits of a rule do not fit the text. -/
  | edits (rule : Rule) (cause : EditError)
  /-- A rule left more faults in the text than there were. -/
  | regression (rule : Rule) (before after : Nat)
  /-- A rule of a pipeline failed. -/
  | stageFailed (rule : Rule) (index : Nat) (cause : RunError)
  /-- The new text could not be handed over. -/
  | sink (reason : String)
  | unknownRule (cause : UnknownRule)
  /-- The names to leave alone are given by something that is no pattern. -/
  | invalidPattern (cause : PatternError)
  deriving DecidableEq, Repr

namespace RunError

/-- The sentence that describes an error. -/
def message : RunError → String
  | parse cause => cause.message
  | conflict rule cause => s!"{rule.id}: {cause.message}"
  | edits rule cause => s!"{rule.id}: {cause.message}"
  | regression rule before after =>
    s!"{rule.id} would introduce syntax errors ({before} before, {after} after); no changes applied"
  | stageFailed rule index cause => s!"pipeline stopped at stage {index} ({rule.id}): {cause.message}"
  | sink reason => s!"failed to apply edits: {reason}"
  | unknownRule cause => cause.message
  | invalidPattern cause => s!"invalid ignore_pattern: {cause.message}"

/-- The sentences about an error, its cause, the cause of that, and so on. What is passed on unchanged counts once. -/
def messages : RunError → List String
  | conflict rule cause => [(conflict rule cause).message, cause.message]
  | edits rule cause => [(edits rule cause).message, cause.message]
  | stageFailed rule index cause => (stageFailed rule index cause).message :: cause.messages
  | e => [e.message]

/-- The rule that is to blame. -/
def rule? : RunError → Option Rule
  | conflict rule _ | edits rule _ | regression rule _ _ | stageFailed rule _ _ => some rule
  | _ => none

end RunError

/-- What came of a run. -/
structure RunReport where
  updatedText : String
  /-- What each of the rules did, in the order in which they ran. -/
  results : List RuleResult
  deriving DecidableEq, Repr

namespace RunReport

/-- Some rule changed the text. -/
def changed (r : RunReport) : Bool := r.results.any (·.changed)

/-- The headlines of the rules. -/
def summaries (r : RunReport) : List String := r.results.map (·.summary)

/-- The number of edits of all the rules. -/
def editsApplied (r : RunReport) : Nat := r.results.foldl (fun total result => total + result.editsApplied) 0

end RunReport

/-- The rules to run, with their settings. -/
structure Pipeline where
  settings : Settings
  stages : List Rule
  /-- Refuse the work of a rule that leaves more faults in a text than there were. -/
  verify : Bool

namespace Pipeline

/-- All rules with their standard settings. -/
def standard : Pipeline := ⟨.standard, Rule.all, true⟩

/-- The changed text has no more faults than the tree it came from. -/
def verified (parser : Parser) (rule : Rule) (tree : Tree) (file updated : String) : Except RunError Unit :=
  match Tree.parse parser file updated with
  | .error e => .error (.parse e)
  | .ok after =>
    if tree.faultCount < after.faultCount then .error (.regression rule tree.faultCount after.faultCount)
    else .ok ()

/-- The text that a rule makes of a parsed text, and what it did. -/
def applyRule (parser : Parser) (p : Pipeline) (rule : Rule) (tree : Tree) (file : String) :
    Except RunError (String × RuleResult) :=
  match rule.check (.ofTree tree p.settings) with
  | .error c => .error (.conflict rule c)
  | .ok (edits, result) =>
    if edits.isEmpty then .ok (tree.source, result)
    else
      match edits.apply tree.source with
      | .error e => .error (.edits rule e)
      | .ok updated =>
        if p.verify then
          match verified parser rule tree file updated with
          | .error e => .error e
          | .ok () => .ok (updated, result)
        else .ok (updated, result)

/-- The text that a rule makes of a text, and what it did. -/
def step (parser : Parser) (p : Pipeline) (rule : Rule) (text file : String) :
    Except RunError (String × RuleResult) :=
  match Tree.parse parser file text with
  | .error e => .error (.parse e)
  | .ok tree => p.applyRule parser rule tree file

/-- Run one rule. -/
def runRule (parser : Parser) (p : Pipeline) (rule : Rule) (text file : String) : Except RunError RunReport :=
  match p.step parser rule text file with
  | .error e => .error e
  | .ok (updated, result) => .ok ⟨updated, [result]⟩

/-- Run rules one after the other, the first of which has the number `index`. -/
def runStages (parser : Parser) (p : Pipeline) (file : String) (index : Nat) (text : String) :
    List Rule → Except RunError RunReport
  | [] => .ok ⟨text, []⟩
  | rule :: rules =>
    match p.step parser rule text file with
    | .error e => .error (.stageFailed rule index e)
    | .ok (updated, result) =>
      match runStages parser p file (index + 1) updated rules with
      | .error e => .error e
      | .ok report => .ok ⟨report.updatedText, result :: report.results⟩

/-- Run all the rules of the pipeline. -/
def runAll (parser : Parser) (p : Pipeline) (text file : String) : Except RunError RunReport :=
  p.runStages parser file 0 text p.stages

/-- List the names that a text declares. -/
def summarize (parser : Parser) (text file : String) : Except RunError DeclaredNames :=
  match Tree.parse parser file text with
  | .error e => .error (.parse e)
  | .ok tree => .ok (.ofTree tree)

end Pipeline

end ScriptTidy
