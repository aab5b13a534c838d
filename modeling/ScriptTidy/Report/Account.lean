import ScriptTidy.Diff.Hunk
import ScriptTidy.Files.Walk
import ScriptTidy.Names.Summary
import ScriptTidy.Report.Style
import ScriptTidy.Report.Table
import ScriptTidy.Rule.Check

/-!
# Accounts for a reader

What a user gets to read about a run. All texts end with the end of a line, and all functions take whether there are
colours.
-/

namespace ScriptTidy

namespace Account

variable (colors : Bool)

/-- The folders that are skipped. -/
def exclusions (folders : List String) : String :=
  if folders.isEmpty then
    let standard := ", ".intercalate (standardExclusions.mergeSort (· ≤ ·))
    Style.paint colors (.colored .green) "[OK] Using default exclusions only:" ++ " " ++
      Style.paint colors .faint standard ++ "\n"
  else
    Style.paint colors (.boldColored .yellow) "Excluding:" ++ " " ++ ", ".intercalate folders ++ "\n"

/-- The rules, with their places in a pipeline. -/
def rules (pipeline : List Rule) : String :=
  let place (rule : Rule) : String :=
    match pipeline.findIdx? (· = rule) with
    | some i => toString (i + 1)
    | none => "-"
  Table.text ⟨["Rule", "Pipeline", "Description"], Rule.all.map fun r => [r.id, place r, r.description]⟩ ++ "\n"

/-- What a rule did to a file. -/
def ruleResult (verbose : Bool) (r : RuleResult) : String :=
  let tag := Style.paint colors (.colored .cyan) ("[" ++ r.rule.id ++ "]")
  let headline := Style.paint colors (if r.changed then .plain else .faint) r.summary
  let dash := Style.paint colors .faint "-"
  let details :=
    r.changes.map (fun change => s!"        {dash} {change}\n") ++
      (r.summaryLines.drop 1).map fun line => s!"        {Style.paint colors (.colored .yellow) line}\n"
  s!"    {tag} {headline}\n" ++ if verbose then String.join details else ""

/-- What the rules did to a file. -/
def fileResults (file : String) (results : List RuleResult) (verbose : Bool) : String :=
  let marker :=
    if results.any (·.changed) then Style.paint colors (.colored .yellow) "✎"
    else Style.paint colors (.colored .green) "✓"
  s!"{marker} {Style.paint colors .strong file}\n" ++ String.join (results.map (ruleResult colors verbose))

/-- Why a file could not be worked on. -/
def fileError (file error : String) : String :=
  let marker := Style.paint colors (.boldColored .red) "✗"
  s!"{marker} {Style.paint colors .strong file}\n    {Style.paint colors (.colored .red) error}\n"

/-- A line of a comparison. -/
def changedLine (change : Fate × String) : String :=
  let line := change.2
  let bare := if line.endsWith "\n" then (line.dropEnd 1).toString else line
  let shown := match change.1 with
    | .goes => Style.paint colors (.colored .red) ("-" ++ bare)
    | .comes => Style.paint colors (.colored .green) ("+" ++ bare)
    | .stays => " " ++ bare
  let ended := line.endsWith "\n" || line.endsWith "\r"
  shown ++ "\n" ++ if ended then "" else "\\ No newline at end of file\n"

/-- A comparison of two versions of a file. -/
def comparison (file old new : String) : String :=
  let oldLines := Diff.lines old
  let newLines := Diff.lines new
  let hunk (h : Hunk) : String :=
    Style.paint colors (.colored .cyan) (Diff.heading h) ++ "\n" ++
      String.join ((Diff.changes oldLines.toArray newLines.toArray h).map (changedLine colors))
  Style.paint colors (.colored .red) ("--- a/" ++ file) ++ "\n" ++
    Style.paint colors (.colored .green) ("+++ b/" ++ file) ++ "\n" ++
    String.join ((Diff.hunks 3 oldLines newLines).map hunk)

/-- The names that files declare. Those of a single file are given in one line. -/
def declarations (rows : List (String × DeclaredNames)) : String :=
  match rows with
  | [(_, names)] => names.text ++ "\n"
  | rows =>
    Table.text ⟨["File", "Variables", "Functions"], rows.map fun (file, names) =>
      [file, DeclaredNames.listed names.variableNames, DeclaredNames.listed names.functionNames]⟩ ++ "\n"

/-- How many files were worked on, changed, and could not be worked on. -/
def totals (files changed failed : Nat) (dryRun : Bool) : String :=
  let strong (n : Nat) : String := Style.paint colors .strong (toString n)
  let verb := if dryRun then "would change" else "changed"
  let failures := Style.paint colors (if failed = 0 then .colored .green else .boldColored .red) (toString failed)
  let sentence := s!"Processed {strong files} files: {strong changed} {verb}, {failures} failed"
  s!"\n{Style.paint colors .faint sentence}\n"

end Account

end ScriptTidy
