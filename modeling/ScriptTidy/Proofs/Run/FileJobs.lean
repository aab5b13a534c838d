import ScriptTidy.Command.FileJob
import ScriptTidy.Command.Reader
import ScriptTidy.Proofs.Files.Contents
import ScriptTidy.Proofs.Run.Verification

/-!
# Work on a file and sessions on it

The command line and a session on a file both read the text, run the engine, compare the texts and hand the new one
over. What a session answers is what the work on the file comes to (`runOn_eq_answer`), and both leave the same files.
What the work on a file does to it is told by `runFile_cases`: it is left alone, or it gets the text of the report.
-/

namespace ScriptTidy

/-- The call of a session for a task. -/
def Task.inSession {H : Type} [Host H] (parser : Parser) (p : Pipeline) (task : Task) (host : H) :
    H × Except RunError (Option RunReport) :=
  match task with
  | rule r => Session.runRule parser p host r
  | pipeline => Session.runAll parser p host

/-- What the answer of a session on a text means for the file. -/
def FileFailure.ofAnswer (text : String) : Except RunError (Option RunReport) → Except FileFailure (String × RunReport)
  | .error e => .error (.run e)
  | .ok none => .error .unreadable
  | .ok (some report) => .ok (text, report)

private theorem FileFailure.ofAnswer_eq_error_iff {text : String} {answer : Except RunError (Option RunReport)}
    {e : RunError} :
    ofAnswer text answer = .error (.run e) ↔ answer = .error e := by
  rcases answer with e | _ | report <;> simp [ofAnswer]

private theorem FileFailure.ofAnswer_eq_ok_iff {text : String} {answer : Except RunError (Option RunReport)}
    {report : RunReport} : ofAnswer text answer = .ok (text, report) ↔ answer = .ok (some report) := by
  rcases answer with e | _ | report <;> simp [ofAnswer]

namespace FileJob

variable {parser : Parser} {p : Pipeline} {job : FileJob} {files : FileSystem} {path text : String}

/-! ### The same as a session -/

theorem snapshot_host (hread : files.readText path = .ok text) (write : Bool) (notices : List String) :
    Host.snapshot (⟨files, path, write, notices⟩ : FileHost) = some ⟨text, path⟩ := by
  simp [Host.snapshot, hread]

/-- Messages leave the files alone. -/
private theorem files_notifyAll (host : FileHost) (messages : List String) :
    (Session.notifyAll host messages).files = host.files := by
  induction messages generalizing host with
  | nil => rfl
  | cons message messages ih => exact ih (Host.notify host message)

/-- Work on a file leaves the files that a run of a session leaves, and has the answer of that run for its result. -/
theorem runOn_eq_answer (parser : Parser) (p : Pipeline) (job : FileJob) (hread : files.readText path = .ok text)
    (notices : List String) (complaint : RunError → String) (account : RunReport → List String) :
    let (after, answer) := Session.run (⟨files, path, job.write, notices⟩ : FileHost)
      (fun s => job.task.run parser p s.text s.file) complaint account
    (job.runOn parser p (job.host files path)).1.files = after.files ∧
      (job.runOn parser p (job.host files path)).2 = FileFailure.ofAnswer text answer := by
  simp only [runOn, host, Session.run, snapshot_host hread]
  cases job.task.run parser p text path with
  | error e => exact ⟨rfl, rfl⟩
  | ok report =>
    by_cases hsame : report.updatedText = text
    · simp only [Session.commit, if_pos hsame]
      exact ⟨by rw [files_notifyAll], rfl⟩
    · simp only [Session.commit, if_neg hsame, handOver, Host.accept]
      cases job.write with
      | false =>
        simp only [Bool.false_eq_true, if_false]
        exact ⟨by rw [files_notifyAll], rfl⟩
      | true =>
        simp only [if_true]
        cases files.writeText path report.updatedText with
        | error e => exact ⟨rfl, rfl⟩
        | ok written =>
          dsimp only
          exact ⟨by rw [files_notifyAll], rfl⟩

private theorem runFile_eq_answer (parser : Parser) (p : Pipeline) (job : FileJob)
    (hread : files.readText path = .ok text) (notices : List String) :
    let (after, answer) := job.task.inSession parser p (⟨files, path, job.write, notices⟩ : FileHost)
    (job.runFile parser p files path).1 = after.files ∧
      (job.runFile parser p files path).2.result = FileFailure.ofAnswer text answer := by
  obtain ⟨task, write⟩ := job
  cases task with
  | rule r => exact runOn_eq_answer parser p ⟨.rule r, write⟩ hread notices _ _
  | pipeline => exact runOn_eq_answer parser p ⟨.pipeline, write⟩ hread notices _ _

/-! ### What happens to the file -/

/-- The failure of a write to a protected file. -/
def refusal (path : String) : FileFailure := .run (.sink s!"{path}: {FileError.permissionDenied.message}")

/-- Handing a report over gives the file a new content, unless nothing is to be written or the file is protected. -/
theorem handOver_withContents {new : Location → Option ByteArray} {location : Location} {old : ByteArray}
    (hfits : files.HasFiles new) (hplace : files.locate path = .ok location)
    (hfile : files.entry? location = some (.file old)) (report : RunReport) :
    handOver (job.host (files.withContents new) path) text report =
      if job.write = true then
        if files.writeProtected.contains location = true then
          (job.host (files.withContents new) path, .error (refusal path))
        else
          (job.host (files.withContents (Function.update new location (some report.updatedText.toUTF8))) path,
            .ok (text, report))
      else (job.host (files.withContents new) path, .ok (text, report)) := by
  simp only [handOver, host, Host.accept, FileSystem.writeText_withContents hfits hplace hfile]
  cases job.write with
  | false => rfl
  | true =>
    by_cases hprotected : files.writeProtected.contains location = true
    · simp only [if_true, if_pos hprotected]
      rfl
    · simp only [if_true, if_neg hprotected]

theorem handOver_of_file {location : Location} {old : ByteArray} (hplace : files.locate path = .ok location)
    (hfile : files.entry? location = some (.file old)) (report : RunReport) :
    handOver (job.host files path) text report =
      if job.write = true then
        if files.writeProtected.contains location = true then (job.host files path, .error (refusal path))
        else (job.host (files.withText location report.updatedText) path, .ok (text, report))
      else (job.host files path, .ok (text, report)) := by
  have h : handOver (job.host (files.withContents fun _ => none) path) text report = _ :=
    handOver_withContents (FileSystem.hasFiles_none files) hplace hfile report
  rwa [FileSystem.withContents_none] at h

/-- The work fails, because the engine does or the file is protected, and nothing is written, or there is a report, and
its text is written if that is wanted and it is new. -/
theorem runFile_cases (parser : Parser) (p : Pipeline) (job : FileJob) {location : Location}
    (hplace : files.locate path = .ok location)
    (hfile : files.entry? location = some (.file text.toUTF8)) :
    ((job.runFile parser p files path).1 = files ∧
      ∃ e, (job.runFile parser p files path).2.result = .error (.run e) ∧
        (job.task.run parser p text path = .error e ∨ files.writeProtected.contains location = true ∧
          ∃ report, job.task.run parser p text path = .ok report)) ∨
    ∃ report, job.task.run parser p text path = .ok report ∧
      (job.runFile parser p files path).2.result = .ok (text, report) ∧
      (job.runFile parser p files path).1 =
        if job.write = true ∧ report.updatedText ≠ text then files.withText location report.updatedText
        else files := by
  have hread : files.readText path = .ok text := FileSystem.readText_eq_ok_iff.2 ⟨location, hplace, hfile⟩
  have hsnapshot : Host.snapshot (job.host files path) = some ⟨text, path⟩ := snapshot_host hread ..
  simp only [runFile, runOn, hsnapshot]
  cases hrun : job.task.run parser p text path with
  | error e => exact .inl ⟨rfl, e, rfl, .inl rfl⟩
  | ok report =>
    by_cases hsame : report.updatedText = text
    · simp only [if_pos hsame]
      exact .inr ⟨report, rfl, rfl, by simp [hsame, host]⟩
    · simp only [if_neg hsame, handOver_of_file hplace hfile report]
      cases hwrite : job.write with
      | false => exact .inr ⟨report, rfl, rfl, rfl⟩
      | true =>
        by_cases hprotected : files.writeProtected.contains location = true
        · simp only [if_true, if_pos hprotected]
          exact .inl ⟨rfl, _, rfl, .inr ⟨hprotected, report, rfl⟩⟩
        · simp only [if_true, if_neg hprotected]
          exact .inr ⟨report, rfl, rfl, by simp [hsame, host]⟩

/-- The command line and a session do the same to a file that can be read. Both leave the same files, the work fails
exactly if the session does, and otherwise has the same report. The files are as they were if the engine fails, if the
new text cannot be written, or if nothing is to be written; otherwise the file holds the text of the report, and
everything else is as it was. -/
theorem file_jobs_agree_with_sessions (parser : Parser) (p : Pipeline) (task : Task) (delivery : Delivery)
    (files : FileSystem) (path text : String) (notices : List String) (hread : files.readText path = .ok text) :
    let write := !(delivery.dryRun || delivery.stdout)
    let (after, outcome) := (⟨task, delivery.writesFiles⟩ : FileJob).runFile parser p files path
    let (session, answer) := task.inSession parser p (⟨files, path, write, notices⟩ : FileHost)
    after = session.files ∧ outcome.result = FileFailure.ofAnswer text answer ∧ answer ≠ .ok none ∧
      (outcome.error?.isSome = true ↔ ∃ e, answer = .error e) ∧
      (∀ e, task.run parser p text path = .error e → answer = .error e) ∧
      (∀ e, answer = .error e → after = files) ∧ (write = false → after = files) ∧
      (∀ report, answer = .ok (some report) → task.run parser p text path = .ok report ∧
        outcome.results = report.results ∧ (write = true → after.readText path = .ok report.updatedText)) ∧
      ∀ location, files.locate path ≠ .ok location → after.entry? location = files.entry? location := by
  intro write
  have hwrite : delivery.writesFiles = write := by simp [write, Delivery.writesFiles]
  obtain ⟨location, hplace, hfile⟩ := FileSystem.readText_eq_ok_iff.1 hread
  rw [hwrite]
  have hagree := runFile_eq_answer parser p ⟨task, write⟩ hread notices
  have hcases := runFile_cases parser p ⟨task, write⟩ hplace hfile
  rcases hwork : (⟨task, write⟩ : FileJob).runFile parser p files path with ⟨after, outcome⟩
  rcases hsession : task.inSession parser p (⟨files, path, write, notices⟩ : FileHost) with ⟨session, answer⟩
  simp only [hwork, hsession] at hagree hcases
  obtain ⟨hfiles, hresult⟩ := hagree
  rcases hcases with ⟨rfl, e, hfailed, hcause⟩ | ⟨report, hrun, hdone, hafter⟩
  · obtain rfl : answer = .error e := FileFailure.ofAnswer_eq_error_iff.1 (hresult.symm.trans hfailed)
    refine ⟨hfiles, hresult, nofun, ?_, ?_, fun _ _ => rfl, fun _ => rfl, nofun, fun _ _ => rfl⟩
    · simp [FileOutcome.error?, hfailed]
    · intro e' he'
      rcases hcause with hcause | ⟨-, report, hrun⟩
      · cases hcause.symm.trans he'
        rfl
      · cases hrun.symm.trans he'
  · obtain rfl : answer = .ok (some report) := FileFailure.ofAnswer_eq_ok_iff.1 (hresult.symm.trans hdone)
    refine ⟨hfiles, hresult, nofun, ?_, ?_, nofun, ?_, ?_, ?_⟩
    · simp [FileOutcome.error?, hdone]
    · intro e he
      cases hrun.symm.trans he
    · intro hno
      simpa [hno] using hafter
    · intro other hother
      obtain rfl : report = other := by simpa using hother
      refine ⟨hrun, by simp [FileOutcome.results, hdone], fun hyes => ?_⟩
      by_cases hsame : report.updatedText = text
      · simpa [hafter, hsame] using hread
      · rw [hafter, if_pos ⟨hyes, hsame⟩]
        exact FileSystem.readText_withText hplace hfile _
    · intro other hother
      have hne : other ≠ location := fun heq => hother (heq ▸ hplace)
      rw [hafter]
      split
      · exact FileSystem.entry?_withText_of_ne hfile hne _
      · rfl

open Pipeline (faultyTexts exists_of_map_toOption)

/-- A directory with one file, in which a variable is not used and another is declared by `var`. -/
def twoVariables : FileSystem where
  workingDirectory := ["work"]
  entries := [(["work"], .directory), (["work", "a.js"], .file "let a = 1; var b = 2; b; (".toUTF8)]

private theorem readText_twoVariables : twoVariables.readText "a.js" = .ok "let a = 1; var b = 2; b; (" := by
  have hread : (twoVariables.readText "a.js").toOption.map id = some "let a = 1; var b = 2; b; (" := by
    decide +kernel
  obtain ⟨text, htext, rfl⟩ := exists_of_map_toOption hread
  exact htext

/-- Both write the text that two stages of the pipeline leave. -/
theorem file_jobs_agree_with_sessions_writing :
    twoVariables.readText "a.js" = .ok "let a = 1; var b = 2; b; (" ∧
    let (after, outcome) := (⟨.pipeline, true⟩ : FileJob).runFile faultyTexts .standard twoVariables "a.js"
    let (session, answer) :=
      Task.pipeline.inSession faultyTexts .standard (⟨twoVariables, "a.js", true, []⟩ : FileHost)
    after = session.files ∧ after.readText "a.js" = .ok " let b = 2; b; (" ∧
      ∃ report, outcome.result = .ok ("let a = 1; var b = 2; b; (", report) ∧ answer = .ok (some report) ∧
        report.updatedText = " let b = 2; b; (" := by
  have hanswer : (Task.pipeline.inSession faultyTexts .standard
      (⟨twoVariables, "a.js", true, []⟩ : FileHost)).2.toOption.map (·.map (·.updatedText)) =
        some (some " let b = 2; b; (") := by decide +kernel
  obtain ⟨answer, hreport, htext⟩ := exists_of_map_toOption hanswer
  obtain ⟨report, rfl, hwritten⟩ := Option.map_eq_some_iff.1 htext
  have hagree := file_jobs_agree_with_sessions faultyTexts .standard .pipeline ⟨false, false⟩ twoVariables "a.js" _ []
    readText_twoVariables
  refine ⟨readText_twoVariables, ?_⟩
  obtain ⟨hfiles, hresult, -, -, -, -, -, hdone, -⟩ := hagree
  obtain ⟨-, -, hafter⟩ := hdone report hreport
  refine ⟨hfiles, ?_, report, ?_, hreport, hwritten⟩
  · rw [← hwritten]
    exact hafter rfl
  · exact hresult.trans (FileFailure.ofAnswer_eq_ok_iff.2 hreport)

end FileJob

end ScriptTidy
