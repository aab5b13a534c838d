import ScriptTidy.Command.FileJob
import ScriptTidy.Data.Json.Basic

/-!
# Reports for programs

Reports as JSON documents. Their fields come in a fixed order.
-/

namespace ScriptTidy

namespace Document

/-- What a rule did. -/
def ruleResult (r : RuleResult) : Json :=
  .object [("rule", .text r.rule.id), ("edits_applied", .ofNat r.editsApplied), ("count", .ofNat r.count),
    ("changes", .texts r.changes), ("summary_lines", .texts r.summaryLines)]

/-- A field that may be missing. -/
def optional (key : String) (value : Option Json) : List (String × Json) := (value.map (key, ·)).toList

/-- What came of the work on a file. The new text is included if `withText`. -/
def fileOutcome (withText : Bool) (o : FileOutcome) : Json :=
  let updated := match o.result with
    | .ok (_, report) => if withText then some (.text report.updatedText) else none
    | .error _ => none
  .object ([("file", .text o.file), ("changed", .bool o.changed), ("results", .array (o.results.map ruleResult))] ++
    optional "error" (o.error?.map .text) ++ optional "failed_rule" (o.failedRule?.map (.text ·.id)) ++
    optional "updated_text" updated)

/-- What came of the work on several files. -/
def fileOutcomes (dryRun withText : Bool) (outcomes : List FileOutcome) : Json :=
  .object [("dry_run", .bool dryRun), ("files", .array (outcomes.map (fileOutcome withText))),
    ("changed", .ofNat (outcomes.countP (·.changed))), ("failed", .ofNat (FileOutcome.failed outcomes))]

/-- The names that files declare. -/
def declarations (rows : List (String × DeclaredNames)) : Json :=
  .array (rows.map fun (file, names) =>
    .object [("file", .text file), ("variable_names", .texts names.variableNames),
      ("function_names", .texts names.functionNames)])

/-- The names that one text declares. -/
def summary (names : DeclaredNames) : Json :=
  .object [("function_names", .texts names.functionNames), ("summary", .text names.text),
    ("variable_names", .texts names.variableNames)]

/-- The rules, and which of them a pipeline runs. -/
def rules (pipeline : List Rule) : Json :=
  .array (Rule.all.map fun r =>
    .object [("description", .text r.description), ("id", .text r.id), ("in_pipeline", .bool (pipeline.contains r))])

/-- A changed text, with what the rules did and what they had to say. -/
def changedText (report : RunReport) (notices : List String) : Json :=
  .object [("updated_text", .text report.updatedText), ("changed", .bool report.changed),
    ("results", .array (report.results.map ruleResult)), ("notices", .texts notices)]

end Document

end ScriptTidy
