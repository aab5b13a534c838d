import ScriptTidy.Session

/-!
# Working on files

A task is run on the text of a file, and a changed text is written back if that is wanted. Several files are worked on
one after the other, or step by step in some other order: the work on a file has three steps, in which its text is read,
the task is run, and the new text is written. The steps for one file come in this order, and those for other files may
come in between.
-/

namespace ScriptTidy

/-- What to run on a text. -/
inductive Task where
  | rule (rule : Rule)
  | pipeline
  deriving DecidableEq, Repr

/-- Run a task on a text. -/
def Task.run (parser : Parser) (p : Pipeline) (task : Task) (text file : String) : Except RunError RunReport :=
  match task with
  | rule r => p.runRule parser r text file
  | pipeline => p.runAll parser text file

/-- Why a file could not be worked on. -/
inductive FileFailure where
  /-- There is no text. -/
  | unreadable
  | run (cause : RunError)
  deriving DecidableEq, Repr

/-- What came of the work on a file. -/
structure FileOutcome where
  /-- The path as it is shown. -/
  file : String
  /-- The text before, and the report of the run. -/
  result : Except FileFailure (String × RunReport)

namespace FileOutcome

/-- The text is not what it was. -/
def changed (o : FileOutcome) : Bool :=
  match o.result with
  | .ok (text, report) => report.updatedText ≠ text
  | .error _ => false

/-- What went wrong, with all its causes. -/
def error? (o : FileOutcome) : Option String :=
  match o.result with
  | .ok _ => none
  | .error .unreadable => some s!"Failed to read {o.file}"
  | .error (.run cause) => some (": ".intercalate cause.messages)

/-- The rule that is to blame. -/
def failedRule? (o : FileOutcome) : Option Rule :=
  match o.result with
  | .error (.run cause) => cause.rule?
  | _ => none

/-- The reports of the rules. -/
def results (o : FileOutcome) : List RuleResult :=
  match o.result with
  | .ok (_, report) => report.results
  | .error _ => []

/-- How many of several failed. -/
def failed (outcomes : List FileOutcome) : Nat := outcomes.countP (·.error?.isSome)

/-- The code that tells whether some of them failed. -/
def exitCode (outcomes : List FileOutcome) : Nat := if failed outcomes = 0 then 0 else 1

end FileOutcome

/-- What to do with each file. -/
structure FileJob where
  task : Task
  /-- Write changed texts to their files. -/
  write : Bool

namespace FileJob

variable (parser : Parser) (p : Pipeline) (job : FileJob)

/-- Hand the text of a report over to a host. -/
def handOver (host : FileHost) (text : String) (report : RunReport) :
    FileHost × Except FileFailure (String × RunReport) :=
  match Host.accept host report.updatedText with
  | .ok host => (host, .ok (text, report))
  | .error reason => (host, .error (.run (.sink reason)))

/-- Work on the file of a host. -/
def runOn (host : FileHost) : FileHost × Except FileFailure (String × RunReport) :=
  match Host.snapshot host with
  | none => (host, .error .unreadable)
  | some snapshot =>
    match job.task.run parser p snapshot.text snapshot.file with
    | .error e => (host, .error (.run e))
    | .ok report =>
      if report.updatedText = snapshot.text then (host, .ok (snapshot.text, report))
      else handOver host snapshot.text report

/-- The host of the file at a path. -/
def host (files : FileSystem) (path : String) : FileHost := ⟨files, path, job.write, []⟩

/-- Work on one file: the files afterwards, and what came of it. -/
def runFile (files : FileSystem) (path : String) : FileSystem × FileOutcome :=
  let (host, result) := job.runOn parser p (job.host files path)
  (host.files, ⟨Path.display path, result⟩)

/-- Work on files one after the other. -/
def runFiles (files : FileSystem) : List String → FileSystem × List FileOutcome
  | [] => (files, [])
  | path :: paths =>
    let (files, outcome) := job.runFile parser p files path
    let (files, outcomes) := runFiles files paths
    (files, outcome :: outcomes)

end FileJob

/-! ### Step by step -/

/-- How far the work on a file has come. -/
inductive Progress where
  | waiting
  /-- The text has been read. -/
  | read (snapshot : Snapshot)
  /-- The task has been run, and the new text is to be handed over. -/
  | run (text : String) (report : RunReport)
  | done (result : Except FileFailure (String × RunReport))

/-- The next step of the work on the file of a host. -/
def FileJob.advance (parser : Parser) (p : Pipeline) (job : FileJob) (host : FileHost) :
    Progress → FileHost × Progress
  | .waiting =>
    match Host.snapshot host with
    | none => (host, .done (.error .unreadable))
    | some snapshot => (host, .read snapshot)
  | .read snapshot =>
    match job.task.run parser p snapshot.text snapshot.file with
    | .error e => (host, .done (.error (.run e)))
    | .ok report =>
      if report.updatedText = snapshot.text then (host, .done (.ok (snapshot.text, report)))
      else (host, .run snapshot.text report)
  | .run text report =>
    let (host, result) := handOver host text report
    (host, .done result)
  | .done result => (host, .done result)

/-- Nothing is left to do. -/
def Progress.isDone : Progress → Bool
  | .done _ => true
  | _ => false

/-- Files, and how far the work on each of several paths has come. -/
structure Workbench where
  files : FileSystem
  tasks : List (String × Progress)

namespace Workbench

/-- Nothing has been done for any of the paths. -/
def start (files : FileSystem) (paths : List String) : Workbench := ⟨files, paths.map (·, .waiting)⟩

/-- Do the next step for the path of the given number. -/
def turn (parser : Parser) (p : Pipeline) (job : FileJob) (w : Workbench) (i : Nat) : Workbench :=
  match w.tasks[i]? with
  | none => w
  | some (path, progress) =>
    let (host, progress) := job.advance parser p (job.host w.files path) progress
    ⟨host.files, w.tasks.set i (path, progress)⟩

/-- Do steps for the paths in the order of a schedule, which lists their numbers. -/
def run (parser : Parser) (p : Pipeline) (job : FileJob) (w : Workbench) (schedule : List Nat) : Workbench :=
  schedule.foldl (turn parser p job) w

/-- The work on all the paths is done. -/
def isDone (w : Workbench) : Bool := w.tasks.all (·.2.isDone)

/-- What came of the work that is done. -/
def outcomes (w : Workbench) : List FileOutcome :=
  w.tasks.filterMap fun (path, progress) =>
    match progress with
    | .done result => some ⟨Path.display path, result⟩
    | _ => none

/-- The schedule by which several paths keep pace: all texts are read before any task is run, and all tasks are run
before any text is written. -/
def inStep (count : Nat) : List Nat := List.range count ++ List.range count ++ List.range count

end Workbench

/-- Work on files at the same time. -/
def FileJob.runTogether (parser : Parser) (p : Pipeline) (job : FileJob) (files : FileSystem) (paths : List String) :
    FileSystem × List FileOutcome :=
  let w := (Workbench.start files paths).run parser p job (Workbench.inStep paths.length)
  (w.files, w.outcomes)

end ScriptTidy
