import ScriptTidy.Command.FileJob
import ScriptTidy.Command.Reader
import ScriptTidy.Config.Lookup
import ScriptTidy.Report.Account
import ScriptTidy.Report.Document

/-!
# Commands at work

What a command line does to the files, and what it prints. Nothing is printed in colours.
-/

namespace ScriptTidy

/-- What a command line leaves behind. -/
structure Effect where
  files : FileSystem
  code : Nat
  stdout : String
  stderr : String

namespace CommandLine

/-- The version of the program. -/
def version : String := "0.3.0"

/-- A command that has to give up. -/
def giveUp (files : FileSystem) (message : String) : Effect := ⟨files, 1, "", message⟩

/-- The path of a location. -/
def pathOf (location : Location) : String := "/" ++ "/".intercalate location

/-- The configuration of the first of several paths, with its pipeline. All paths have to be there. -/
def prepare (files : FileSystem) (paths : List String) : Except String (Config × Pipeline) :=
  match paths.find? (!files.exists? ·) with
  | some path => .error s!"Error: The file or directory '{path}' does not exist.\n"
  | none =>
    let anchor := match files.locate (paths.headD ".") with
      | .ok location => pathOf location
      | .error _ => "."
    let config := (Config.nearest files anchor).config
    match config.pipeline with
    | .ok pipeline => .ok (config, pipeline)
    | .error e => .error s!"Error: {e.message}\n"

/-- The files to work on, and what is said about them. -/
def collect (files : FileSystem) (config : Config) (targets : Targets) (talkative : Bool) : List String × String :=
  let exclude := config.excluded ++ targets.exclude
  let found := Walk.expand files exclude targets.list
  let skipped := if targets.list.any files.isDirectory then Account.exclusions false exclude else ""
  let notes := s!"[VERBOSE] Neatify v{version}\n" ++ skipped ++ s!"[VERBOSE] {found.length} file(s) to process\n"
  (found, if talkative then notes else "")

/-- The changed texts of files. If there are several, each has a heading. What went wrong is told apart. -/
def printTexts (outcomes : List FileOutcome) : String × String :=
  let heading (o : FileOutcome) : String := if 1 < outcomes.length then s!"// ==> {o.file} <==\n" else ""
  let texts := outcomes.map fun o =>
    match o.result with
    | .ok (_, report) => heading o ++ report.updatedText
    | .error _ => ""
  let errors := outcomes.map fun o => (o.error?.map (Account.fileError false o.file)).getD ""
  (String.join texts, String.join errors)

/-- What is told about a file. -/
def printOutcome (dryRun verbose : Bool) (o : FileOutcome) : String :=
  match o.result with
  | .error _ => Account.fileError false o.file (o.error?.getD "")
  | .ok (text, report) =>
    Account.fileResults false o.file report.results verbose ++
      if dryRun && o.changed then Account.comparison false o.file text report.updatedText else ""

/-- Work on files. -/
def work (parser : Parser) (files : FileSystem) (task : Task) (targets : Targets) (delivery : Delivery)
    (json verbose : Bool) : Effect :=
  match prepare files targets.list with
  | .error message => giveUp files message
  | .ok (config, pipeline) =>
    let (paths, notes) := collect files config targets (verbose && !json)
    let (files, outcomes) := FileJob.runTogether parser pipeline ⟨task, delivery.writesFiles⟩ files paths
    let (out, errors) :=
      if json then ((Document.fileOutcomes delivery.dryRun delivery.stdout outcomes).pretty ++ "\n", "")
      else if delivery.stdout then printTexts outcomes
      else
        let totals :=
          if 1 < outcomes.length || delivery.dryRun then
            Account.totals false outcomes.length (outcomes.countP (·.changed)) (FileOutcome.failed outcomes)
              delivery.dryRun
          else ""
        (String.join (outcomes.map (printOutcome delivery.dryRun verbose)) ++ totals, "")
    ⟨files, FileOutcome.exitCode outcomes, out, notes ++ errors⟩

/-- The names that a file declares, or why they cannot be listed. -/
def summarizeFile (parser : Parser) (files : FileSystem) (path : String) : Except String DeclaredNames :=
  match files.readText path with
  | .error e => .error s!"Failed to read {Path.display path}: {e.message}"
  | .ok text =>
    match Pipeline.summarize parser text path with
    | .ok names => .ok names
    | .error e => .error (": ".intercalate e.messages)

/-- List the names that files declare. -/
def summarize (parser : Parser) (files : FileSystem) (targets : Targets) (json verbose : Bool) : Effect :=
  match prepare files targets.list with
  | .error message => giveUp files message
  | .ok (config, _) =>
    let (paths, notes) := collect files config targets (verbose && !json)
    let results := paths.map fun path => (Path.display path, summarizeFile parser files path)
    let rows := results.filterMap fun (file, result) =>
      match result with
      | .ok names => some (file, names)
      | .error _ => none
    let errors := results.map fun (file, result) =>
      match result with
      | .ok _ => ""
      | .error message => Account.fileError false file message
    ⟨files, if rows.length = results.length then 0 else 1,
      if json then (Document.declarations rows).pretty ++ "\n" else Account.declarations rows,
      notes ++ String.join errors⟩

/-- List the rules. -/
def listRules (files : FileSystem) (json : Bool) : Effect :=
  match (Config.nearest files ".").config.pipeline with
  | .error e => giveUp files s!"Error: {e.message}\n"
  | .ok pipeline =>
    ⟨files, 0, if json then (Document.rules pipeline.stages).pretty ++ "\n" else Account.rules pipeline.stages, ""⟩

/-- Write a configuration file to the working directory. -/
def createConfig (files : FileSystem) : Effect :=
  match Config.create files "." with
  | .ok (files, text) => ⟨files, 0, text, ""⟩
  | .error e => giveUp files s!"Error: Failed to create {Config.fileName}: {e.message}\n"

/-- The server is not started from here. -/
def serverNotice : String :=
  "Error: mcp-server command should be handled by neatify-cli directly.\n" ++
    "If you're seeing this, please use the neatify binary from neatify-cli.\n"

/-- Do what is asked for. -/
def perform (parser : Parser) (files : FileSystem) (request : Request) (json verbose : Bool) : Effect :=
  match request with
  | .run rule targets delivery => work parser files (.rule rule) targets delivery json verbose
  | .all targets delivery => work parser files .pipeline targets delivery json verbose
  | .summary targets => summarize parser files targets json verbose
  | .rules => listRules files json
  | .init => createConfig files
  | .server => giveUp files serverNotice

/-- Run a command line. -/
def run (parser : Parser) (files : FileSystem) (arguments : List String) : Effect :=
  match Arguments.read arguments with
  | .help level => ⟨files, 0, level.help, ""⟩
  | .version => ⟨files, 0, s!"neatify {version}\n", ""⟩
  | .nothing => giveUp files Level.root.help
  | .refused complaint => giveUp files complaint.message
  | .request request json verbose => perform parser files request json verbose

end CommandLine

end ScriptTidy
