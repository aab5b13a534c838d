import Mathlib.Data.List.Basic
import ScriptTidy.Files.Walk
import ScriptTidy.Proofs.Run.Schedules
import ScriptTidy.Proofs.Run.SecondRun

/-!
# Files that are worked on at the same time

What a task finds in its file depends on the schedule only if another task writes to the same file. As long as none
does, each task is at a stage of its work alone on the files as they were at first (`Faithful`), and a finished
workbench has one form (`Faithful.eq_of_isDone`). If one does, it matters which of the two reads first
(`unchanged_of_agree`).
-/

namespace ScriptTidy

/-! ### Dialects -/

/-- What a task makes of a text depends on the name of the file only by its dialect. -/
private theorem Task.run_congr (parser : Parser) (p : Pipeline) (task : Task) (text : String) {file other : String}
    (h : Dialect.ofFile file = Dialect.ofFile other) :
    task.run parser p text file = task.run parser p text other := by
  have hparse : ∀ source, Tree.parse parser file source = Tree.parse parser other source := by
    intro source
    rw [Tree.parse, Tree.parse, h]
  have hstep : ∀ rule source, p.step parser rule source file = p.step parser rule source other := by
    intro rule source
    simp only [Pipeline.step, Pipeline.applyRule, Pipeline.verified, hparse]
  cases task with
  | rule r => simp only [Task.run, Pipeline.runRule, hstep]
  | pipeline =>
    have hstages : ∀ rules index source,
        p.runStages parser file index source rules = p.runStages parser other index source rules := by
      intro rules
      induction rules with
      | nil => exact fun _ _ => rfl
      | cons rule rules ih =>
        intro index source
        simp only [Pipeline.runStages, hstep, ih]
    exact hstages _ _ _

namespace FileJob

variable {parser : Parser} {p : Pipeline} {job : FileJob} {files : FileSystem} {path text : String}
  {location : Location} {report : RunReport} {progress : Progress} {new : Location → Option ByteArray}

/-! ### Work on one file alone -/

/-- The work on the file at a path puts the text of a report in the place of another. -/
structure Writes (parser : Parser) (p : Pipeline) (job : FileJob) (files : FileSystem) (path : String)
    (location : Location) (text : String) (report : RunReport) : Prop where
  place : files.locate path = .ok location
  file : files.entry? location = some (.file text.toUTF8)
  ran : job.task.run parser p text path = .ok report
  fresh : report.updatedText ≠ text
  wanted : job.write = true
  free : ¬files.writeProtected.contains location = true

/-- How far the work on the file at a path can have come. -/
inductive Stage (parser : Parser) (p : Pipeline) (job : FileJob) (files : FileSystem) (path : String) : Progress → Prop
  | waiting : Stage parser p job files path .waiting
  | read {text : String} : files.readText path = .ok text → Stage parser p job files path (.read ⟨text, path⟩)
  | run {text : String} {report : RunReport} : files.readText path = .ok text →
    job.task.run parser p text path = .ok report → report.updatedText ≠ text →
    Stage parser p job files path (.run text report)
  | done : Stage parser p job files path (.done (job.runFile parser p files path).2.result)

theorem Writes.readText (h : job.Writes parser p files path location text report) : files.readText path = .ok text :=
  FileSystem.readText_eq_ok_iff.2 ⟨location, h.place, h.file⟩

private theorem runFile_of_unreadable {e : FileError} (hread : files.readText path = .error e) :
    job.runFile parser p files path = (files, ⟨Path.display path, .error .unreadable⟩) := by
  have hsnapshot : Host.snapshot (job.host files path) = none := by simp [Host.snapshot, host, hread]
  simp only [runFile, runOn, hsnapshot]
  rfl

private theorem runFile_of_readText (parser : Parser) (p : Pipeline) (job : FileJob)
    (hread : files.readText path = .ok text) :
    job.runFile parser p files path =
      ((job.finish parser p (job.host files path) (.read ⟨text, path⟩)).1.files,
        ⟨Path.display path, (job.finish parser p (job.host files path) (.read ⟨text, path⟩)).2⟩) := by
  have hsnapshot : Host.snapshot (job.host files path) = some ⟨text, path⟩ := snapshot_host hread ..
  simp only [runFile, runOn, hsnapshot]
  rfl

private theorem Writes.runFile_eq (h : job.Writes parser p files path location text report) :
    job.runFile parser p files path =
      (files.withText location report.updatedText, ⟨Path.display path, .ok (text, report)⟩) := by
  rw [runFile_of_readText _ _ _ h.readText]
  simp only [finish, h.ran, if_neg h.fresh, handOver_of_file h.place h.file, if_pos h.wanted, if_neg h.free]
  rfl

private theorem Writes.of_run {before : String} {other : RunReport}
    (h : job.Writes parser p files path location before other) (hread : files.readText path = .ok text)
    (hrun : job.task.run parser p text path = .ok report) : before = text ∧ other = report := by
  obtain rfl : before = text := by simpa using h.readText.symm.trans hread
  exact ⟨rfl, by simpa using h.ran.symm.trans hrun⟩

/-- The work writes at one place only, and one text. -/
theorem Writes.unique {place : Location} {before : String} {other : RunReport}
    (h : job.Writes parser p files path location text report)
    (h' : job.Writes parser p files path place before other) : place = location ∧ other = report :=
  ⟨by simpa using h'.place.symm.trans h.place, (h'.of_run h.readText h.ran).2⟩

/-- In a tree of directories the work is the same by every path to the file. -/
private theorem Writes.of_same_place {other : String} (h : job.Writes parser p files path location text report)
    (htree : files.IsTree) (hplace : files.locate other = .ok location) :
    job.Writes parser p files other location text report := by
  have hname : Path.fileName? path = Path.fileName? other := by
    rw [htree.fileName?_of_file h.place h.file, htree.fileName?_of_file hplace h.file]
  have hdialect : Dialect.ofFile path = Dialect.ofFile other := by
    rw [Dialect.ofFile, Dialect.ofFile, Path.extension?, Path.extension?, hname]
  refine ⟨hplace, h.file, ?_, h.fresh, h.wanted, h.free⟩
  rw [← Task.run_congr parser p job.task text hdialect]
  exact h.ran

/-- What is written differs from what was there. -/
theorem Writes.changed (h : job.Writes parser p files path location text report) :
    (job.runFile parser p files path).1 ≠ files := by
  intro hsame
  have hwritten := FileSystem.readText_withText h.place h.file report.updatedText
  have hafter : files.withText location report.updatedText = files := by
    rw [h.runFile_eq] at hsame
    exact hsame
  rw [hafter, h.readText] at hwritten
  exact h.fresh (by simpa using hwritten.symm)

/-- The files change only by a write. -/
private theorem exists_writes (h : (job.runFile parser p files path).1 ≠ files) :
    ∃ location text report, job.Writes parser p files path location text report := by
  cases hread : files.readText path with
  | error e => exact absurd (by rw [runFile_of_unreadable hread]) h
  | ok text =>
    obtain ⟨location, hplace, hfile⟩ := FileSystem.readText_eq_ok_iff.1 hread
    rcases runFile_cases parser p job hplace hfile with ⟨hsame, -⟩ | ⟨report, hrun, hresult, hafter⟩
    · exact absurd hsame h
    · have hnew : job.write = true ∧ report.updatedText ≠ text := by
        by_contra hnot
        exact h (hafter.trans (if_neg hnot))
      refine ⟨location, text, report, hplace, hfile, hrun, hnew.2, hnew.1, fun hprotected => ?_⟩
      rw [runFile_of_readText _ _ _ hread] at hresult
      simp only [finish, hrun, if_neg hnew.2, handOver_of_file hplace hfile, if_pos hnew.1, if_pos hprotected]
        at hresult
      cases hresult

/-- A path reads what it read at first where no new content has been written. -/
private theorem readText_withContents (hfits : files.HasFiles new)
    (hfree : ∀ location, files.locate path = .ok location → new location = none) :
    (files.withContents new).readText path = files.readText path := by
  have hplace := FileSystem.locate_withContents hfits path
  simp only [FileSystem.readText, FileSystem.read, hplace]
  cases hlocation : files.locate path with
  | error e => rfl
  | ok location => simp only [FileSystem.entry?_withContents_of_none hfits (hfree location hlocation)]

/-- What a step of the work on the file at a path leads to, where some files have new contents. -/
inductive Steps (parser : Parser) (p : Pipeline) (job : FileJob) (files : FileSystem) (path : String)
    (new : Location → Option ByteArray) : FileSystem → Progress → Prop
  /-- There is more to do. -/
  | on {next : Progress} : job.Stage parser p files path next → next.isDone = false →
    Steps parser p job files path new (files.withContents new) next
  /-- The work is done, and has nothing to write. -/
  | closed {result : Except FileFailure (String × RunReport)} : (job.runFile parser p files path).2.result = result →
    (∀ location text report, ¬job.Writes parser p files path location text report) →
    Steps parser p job files path new (files.withContents new) (.done result)
  /-- The work is done, and its text is written. -/
  | wrote {location : Location} {text : String} {report : RunReport} :
    job.Writes parser p files path location text report →
    Steps parser p job files path new
      (files.withContents (Function.update new location (some report.updatedText.toUTF8))) (.done (.ok (text, report)))

private theorem Stage.result_eq {result : Except FileFailure (String × RunReport)}
    (h : job.Stage parser p files path (.done result)) : result = (job.runFile parser p files path).2.result := by
  cases h
  rfl

theorem Steps.stage {after : FileSystem} {next : Progress} (h : Steps parser p job files path new after next) :
    job.Stage parser p files path next := by
  cases h with
  | on hstage => exact hstage
  | closed hresult => exact hresult ▸ .done
  | wrote hwrites =>
    have hdone : job.Stage parser p files path (.done (job.runFile parser p files path).2.result) := .done
    rwa [hwrites.runFile_eq] at hdone

/-- A step from a stage, where nothing new has been written to the file of the path. -/
theorem Stage.advance (h : job.Stage parser p files path progress) (hnot : progress.isDone = false)
    (hfits : files.HasFiles new) (hfree : ∀ location, files.locate path = .ok location → new location = none) :
    Steps parser p job files path new
      (job.advance parser p (job.host (files.withContents new) path) progress).1.files
      (job.advance parser p (job.host (files.withContents new) path) progress).2 := by
  have hreads := readText_withContents hfits hfree
  cases h with
  | waiting =>
    cases hread : files.readText path with
    | error e =>
      have hsnapshot : Host.snapshot (job.host (files.withContents new) path) = none := by
        simp [Host.snapshot, host, hreads, hread]
      simp only [FileJob.advance, hsnapshot]
      refine .closed (by rw [runFile_of_unreadable hread]) fun location text report hwrites => ?_
      cases hread.symm.trans hwrites.readText
    | ok text =>
      have hsnapshot : Host.snapshot (job.host (files.withContents new) path) = some ⟨text, path⟩ :=
        snapshot_host (hreads.trans hread) ..
      simp only [FileJob.advance, hsnapshot]
      exact .on (.read hread) rfl
  | @read text hread =>
    have hwork := runFile_of_readText parser p job hread
    simp only [FileJob.advance]
    cases hrun : job.task.run parser p text path with
    | error e =>
      refine .closed (by simp only [hwork, finish, hrun]) fun location before report hwrites => ?_
      obtain rfl : text = before := by simpa using hread.symm.trans hwrites.readText
      cases hrun.symm.trans hwrites.ran
    | ok report =>
      by_cases hsame : report.updatedText = text
      · simp only [if_pos hsame]
        refine .closed (by simp only [hwork, finish, hrun, if_pos hsame]) fun location before other hwrites => ?_
        obtain ⟨rfl, rfl⟩ := hwrites.of_run hread hrun
        exact hwrites.fresh hsame
      · simp only [if_neg hsame]
        exact .on (.run hread hrun hsame) rfl
  | @run text report hread hrun hfresh =>
    have hwork := runFile_of_readText parser p job hread
    obtain ⟨location, hplace, hfile⟩ := FileSystem.readText_eq_ok_iff.1 hread
    simp only [FileJob.advance, handOver_withContents hfits hplace hfile]
    by_cases hwanted : job.write = true
    · by_cases hprotected : files.writeProtected.contains location = true
      · simp only [if_pos hwanted, if_pos hprotected]
        refine .closed ?_ fun place before other hwrites => ?_
        · simp only [hwork, finish, hrun, if_neg hfresh, handOver_of_file hplace hfile, if_pos hwanted,
            if_pos hprotected]
        · obtain rfl : location = place := by simpa using hplace.symm.trans hwrites.place
          exact hwrites.free hprotected
      · simp only [if_pos hwanted, if_neg hprotected]
        exact .wrote ⟨hplace, hfile, hrun, hfresh, hwanted, hprotected⟩
    · simp only [if_neg hwanted]
      refine .closed ?_ fun place before other hwrites => hwanted hwrites.wanted
      simp only [hwork, finish, hrun, if_neg hfresh, handOver_of_file hplace hfile, if_neg hwanted]
  | done => cases hnot

end FileJob

namespace Workbench

variable {parser : Parser} {p : Pipeline} {job : FileJob} {files : FileSystem} {paths : List String} {w : Workbench}

/-! ### Work on files that do not interfere -/

/-- If two paths lead to one place, the work on neither of them alone changes anything. -/
def Apart (parser : Parser) (p : Pipeline) (job : FileJob) (files : FileSystem) (paths : List String) : Prop :=
  paths.Pairwise fun q r => ∀ location, files.locate q = .ok location → files.locate r = .ok location →
    (job.runFile parser p files q).1 = files ∧ (job.runFile parser p files r).1 = files

theorem Apart.unchanged (h : Apart parser p job files paths) {i j : Nat} {q r : String} {location : Location}
    (hij : i ≠ j) (hq : paths[i]? = some q) (hr : paths[j]? = some r) (hqplace : files.locate q = .ok location)
    (hrplace : files.locate r = .ok location) : (job.runFile parser p files q).1 = files := by
  obtain ⟨hi, rfl⟩ := List.getElem?_eq_some_iff.1 hq
  obtain ⟨hj, rfl⟩ := List.getElem?_eq_some_iff.1 hr
  have hpairwise := List.pairwise_iff_getElem.1 h
  rcases Nat.lt_or_gt_of_ne hij with hlt | hgt
  · exact (hpairwise i j hi hj hlt location hqplace hrplace).1
  · exact (hpairwise j i hj hi hgt location hrplace hqplace).2

/-- The new contents are those that the finished tasks write. -/
def Records (parser : Parser) (p : Pipeline) (job : FileJob) (files : FileSystem) (tasks : List (String × Progress))
    (new : Location → Option ByteArray) : Prop :=
  ∀ location content, new location = some content ↔ ∃ path result text report,
    (path, Progress.done result) ∈ tasks ∧ job.Writes parser p files path location text report ∧
      content = report.updatedText.toUTF8

/-- Every task is at a stage of its work alone, and the files are those at first with what the finished tasks write. -/
structure Faithful (parser : Parser) (p : Pipeline) (job : FileJob) (files : FileSystem) (paths : List String)
    (w : Workbench) : Prop where
  paths : w.tasks.map (·.1) = paths
  stage : ∀ task ∈ w.tasks, job.Stage parser p files task.1 task.2
  files : ∃ new, files.HasFiles new ∧ w.files = files.withContents new ∧ Records parser p job files w.tasks new

private theorem faithful_start : Faithful parser p job files paths (start files paths) where
  paths := by simp [start, Function.comp_def]
  stage := by
    intro task htask
    obtain ⟨path, -, rfl⟩ := List.mem_map.1 htask
    exact .waiting
  files := by
    refine ⟨fun _ => none, FileSystem.hasFiles_none files, (FileSystem.withContents_none files).symm, ?_⟩
    intro location content
    constructor
    · nofun
    · rintro ⟨path, result, text, report, htask, -⟩
      obtain ⟨other, -, hother⟩ := List.mem_map.1 htask
      cases hother

private theorem ne_of_done {tasks : List (String × Progress)} {i j : Nat} {path other : String} {progress : Progress}
    {result : Except FileFailure (String × RunReport)} (hi : tasks[i]? = some (path, progress))
    (hnot : progress.isDone = false) (hj : tasks[j]? = some (other, .done result)) : i ≠ j := by
  rintro rfl
  obtain ⟨-, rfl⟩ : path = other ∧ progress = .done result := by simpa using hi.symm.trans hj
  cases hnot

/-- At the place of a task that is not done nothing new has been written. -/
theorem Faithful.free (h : Faithful parser p job files paths w) (hapart : Apart parser p job files paths)
    {new : Location → Option ByteArray} (hrecords : Records parser p job files w.tasks new) {i : Nat} {path : String}
    {progress : Progress} (htask : w.tasks[i]? = some (path, progress)) (hnot : progress.isDone = false)
    {location : Location} (hplace : files.locate path = .ok location) : new location = none := by
  rw [Option.eq_none_iff_forall_ne_some]
  intro content hcontent
  obtain ⟨other, result, text, report, hmem, hwrites, -⟩ := (hrecords location content).1 hcontent
  obtain ⟨j, hj⟩ := List.getElem?_of_mem hmem
  refine hwrites.changed (hapart.unchanged (ne_of_done htask hnot hj).symm ?_ ?_ hwrites.place hplace)
  · rw [← h.paths, List.getElem?_map, hj]
    rfl
  · rw [← h.paths, List.getElem?_map, htask]
    rfl

/-- The finished tasks after a step are those before it, and the one that took the step if it is finished now. -/
private theorem done_mem_set_iff {tasks : List (String × Progress)} {i : Nat} {path other : String}
    {progress next : Progress} {result : Except FileFailure (String × RunReport)}
    (htask : tasks[i]? = some (path, progress)) (hnot : progress.isDone = false) :
    (other, Progress.done result) ∈ tasks.set i (path, next) ↔
      (other, Progress.done result) ∈ tasks ∨ (other, Progress.done result) = (path, next) := by
  constructor
  · exact List.mem_or_eq_of_mem_set
  · rintro (hmem | heq)
    · obtain ⟨j, hj⟩ := List.getElem?_of_mem hmem
      exact List.mem_of_getElem? (by rw [List.getElem?_set_ne (ne_of_done htask hnot hj), hj])
    · rw [heq]
      exact List.mem_set (List.getElem?_eq_some_iff.1 htask).1 _

section Recording

variable {tasks : List (String × Progress)} {new : Location → Option ByteArray} {i : Nat} {path : String}
  {progress next : Progress}

private theorem Records.of_no_write (h : Records parser p job files tasks new)
    (htask : tasks[i]? = some (path, progress)) (hnot : progress.isDone = false)
    (hno : next.isDone = true → ∀ location text report, ¬job.Writes parser p files path location text report) :
    Records parser p job files (tasks.set i (path, next)) new := by
  intro location content
  rw [h location content]
  constructor
  · rintro ⟨other, result, text, report, hmem, hwrites⟩
    exact ⟨other, result, text, report, (done_mem_set_iff htask hnot).2 (.inl hmem), hwrites⟩
  · rintro ⟨other, result, text, report, hmem, hwrites⟩
    rcases (done_mem_set_iff htask hnot).1 hmem with hmem | heq
    · exact ⟨other, result, text, report, hmem, hwrites⟩
    · obtain ⟨rfl, rfl⟩ := Prod.mk.inj heq
      exact absurd hwrites.1 (hno rfl location text report)

private theorem Records.of_write (h : Records parser p job files tasks new) (htask : tasks[i]? = some (path, progress))
    (hnot : progress.isDone = false) {place : Location} (hfree : new place = none) {before : String}
    {written : RunReport} (hwrite : job.Writes parser p files path place before written)
    {result : Except FileFailure (String × RunReport)} :
    Records parser p job files (tasks.set i (path, .done result))
      (Function.update new place (some written.updatedText.toUTF8)) := by
  intro location content
  constructor
  · intro hcontent
    by_cases hplace : location = place
    · subst hplace
      obtain rfl : written.updatedText.toUTF8 = content := by simpa using hcontent
      exact ⟨path, result, before, written, (done_mem_set_iff htask hnot).2 (.inr rfl), hwrite, rfl⟩
    · rw [Function.update_of_ne hplace] at hcontent
      obtain ⟨other, result', text, report, hmem, hwrites⟩ := (h location content).1 hcontent
      exact ⟨other, result', text, report, (done_mem_set_iff htask hnot).2 (.inl hmem), hwrites⟩
  · rintro ⟨other, result', text, report, hmem, hwrites, rfl⟩
    rcases (done_mem_set_iff htask hnot).1 hmem with hmem | heq
    · -- what was recorded before is recorded at another place
      have hcontent := (h location _).2 ⟨other, result', text, report, hmem, hwrites, rfl⟩
      have hplace : location ≠ place := by
        rintro rfl
        cases hfree.symm.trans hcontent
      rw [Function.update_of_ne hplace, hcontent]
    · obtain ⟨rfl, -⟩ := Prod.mk.inj heq
      obtain ⟨rfl, rfl⟩ := hwrite.unique hwrites
      exact Function.update_self ..

end Recording

private theorem turn_of_done {i : Nat} {path : String} {result : Except FileFailure (String × RunReport)}
    (h : w.tasks[i]? = some (path, .done result)) : w.turn parser p job i = w := by
  obtain ⟨hi, hget⟩ := List.getElem?_eq_some_iff.1 h
  rw [turn_of_getElem? _ _ _ h]
  simp only [FileJob.advance, FileJob.host, ← hget, List.set_getElem_self]

theorem Faithful.turn (h : Faithful parser p job files paths w) (hapart : Apart parser p job files paths) (i : Nat) :
    Faithful parser p job files paths (w.turn parser p job i) := by
  rcases htask : w.tasks[i]? with _ | ⟨path, progress⟩
  · rwa [turn_of_none htask]
  · cases hnot : progress.isDone with
    | true =>
      cases progress with
      | done result => rwa [turn_of_done htask]
      | _ => cases hnot
    | false =>
      obtain ⟨new, hfits, hfiles, hrecords⟩ := h.files
      have hfree : ∀ location, files.locate path = .ok location → new location = none :=
        fun location hplace => h.free hapart hrecords htask hnot hplace
      have hstage := h.stage _ (List.mem_of_getElem? htask)
      have hstep := hstage.advance hnot hfits hfree
      have hpaths : (w.turn parser p job i).tasks.map (·.1) = paths := (map_fst_turn i).trans h.paths
      rw [turn_of_getElem? _ _ _ htask, hfiles] at hpaths ⊢
      generalize (job.advance parser p (job.host (files.withContents new) path) progress).1.files = after at *
      generalize (job.advance parser p (job.host (files.withContents new) path) progress).2 = next at *
      refine ⟨hpaths, fun task hmem => ?_, ?_⟩
      · rcases List.mem_or_eq_of_mem_set hmem with hmem | rfl
        · exact h.stage task hmem
        · exact hstep.stage
      · cases hstep with
        | on _ hmore =>
          refine ⟨new, hfits, rfl, hrecords.of_no_write htask hnot fun hdone => ?_⟩
          rw [hmore] at hdone
          cases hdone
        | closed _ hno => exact ⟨new, hfits, rfl, hrecords.of_no_write htask hnot fun _ => hno⟩
        | @wrote location text report hwrites =>
          exact ⟨_, hfits.update hwrites.file, rfl,
            hrecords.of_write htask hnot (hfree location hwrites.place) hwrites⟩

theorem Faithful.run (h : Faithful parser p job files paths w) (hapart : Apart parser p job files paths)
    (schedule : List Nat) : Faithful parser p job files paths (w.run parser p job schedule) := by
  induction schedule generalizing w with
  | nil => exact h
  | cons i schedule ih => exact ih (h.turn hapart i)

private theorem Faithful.tasks_eq (h : Faithful parser p job files paths w) (hdone : w.isDone = true) :
    w.tasks = paths.map fun path => (path, .done (job.runFile parser p files path).2.result) := by
  rw [← h.paths, List.map_map]
  refine (List.map_id _).symm.trans (List.map_congr_left fun task htask => ?_)
  rcases task with ⟨path, progress⟩
  have hfinished := List.all_eq_true.1 hdone _ htask
  cases progress with
  | done result =>
    have hresult : result = (job.runFile parser p files path).2.result := (h.stage _ htask).result_eq
    exact congrArg (fun r => (path, Progress.done r)) hresult
  | _ => cases hfinished

/-- All finished workbenches are the same. -/
theorem Faithful.eq_of_isDone {v : Workbench} (hv : Faithful parser p job files paths v)
    (hw : Faithful parser p job files paths w) (hvdone : v.isDone = true) (hwdone : w.isDone = true) : v = w := by
  have htasks : v.tasks = w.tasks := (hv.tasks_eq hvdone).trans (hw.tasks_eq hwdone).symm
  obtain ⟨new, -, hvfiles, hvrecords⟩ := hv.files
  obtain ⟨new', -, hwfiles, hwrecords⟩ := hw.files
  have hnew : new = new' := by
    funext location
    refine Option.ext fun content => ?_
    rw [hvrecords location content, hwrecords location content, htasks]
  rcases v with ⟨vfiles, vtasks⟩
  rcases w with ⟨wfiles, wtasks⟩
  simp only at htasks hvfiles hwfiles
  rw [htasks, hvfiles, hwfiles, hnew]

/-! ### Work on files that interfere -/

/-- Where all members are kept, they keep their places. -/
private theorem getElem?_filterMap_of_isSome {α β : Type} {f : α → Option β} {xs : List α}
    (h : ∀ x ∈ xs, (f x).isSome = true) (j : Nat) : (xs.filterMap f)[j]? = xs[j]?.bind f := by
  induction xs generalizing j with
  | nil => rfl
  | cons x xs ih =>
    obtain ⟨y, hy⟩ := Option.isSome_iff_exists.1 (h x List.mem_cons_self)
    rw [List.filterMap_cons_some hy]
    cases j with
    | zero => exact hy.symm
    | succ j => exact ih (fun x hx => h x (List.mem_cons_of_mem _ hx)) j

private theorem getElem?_outcomes {j : Nat} {path : String} {result : Except FileFailure (String × RunReport)}
    (hdone : w.isDone = true) (h : w.tasks[j]? = some (path, .done result)) :
    w.outcomes[j]? = some ⟨Path.display path, result⟩ := by
  rw [outcomes, getElem?_filterMap_of_isSome _ j, h, Option.bind_some]
  rintro ⟨path, progress⟩ htask
  have hfinished := List.all_eq_true.1 hdone _ htask
  cases progress with
  | done result => rfl
  | _ => cases hfinished

/-- What comes of a task is what its work comes to in the files that its first turn finds. -/
private theorem getElem?_run_of_three (parser : Parser) (p : Pipeline) (job : FileJob) {i : Nat} {path : String}
    (h : w.tasks[i]? = some (path, .waiting)) (schedule : List Nat) :
    (w.run parser p job (List.replicate 3 i ++ schedule)).tasks[i]? =
      some (path, .done (job.runFile parser p w.files path).2.result) := by
  have hi := (List.getElem?_eq_some_iff.1 h).1
  rw [run_append, run_three _ _ _ h]
  exact getElem?_run_of_done (List.getElem?_set_self hi) schedule

private theorem isDone_of_oneByOne (parser : Parser) (p : Pipeline) (job : FileJob) (files : FileSystem)
    (paths : List String) (schedule : List Nat) :
    ((start files paths).run parser p job (schedule ++ oneByOne 0 paths.length)).isDone = true := by
  refine isDone_of_three_turns parser p job fun i hi => ?_
  have hmem : i ∈ List.range' 0 paths.length := by simpa [start] using hi
  have hcount := three_le_count_oneByOne hmem
  rw [List.count_append]
  omega

section

variable {outcomes : List FileOutcome}
  (hagree : ∀ schedule, ((start files paths).run parser p job schedule).isDone = true →
    ((start files paths).run parser p job schedule).outcomes = outcomes)
include hagree

/-- If all schedules end alike, then it does not matter when a task has its turns: its outcome is what its work comes to
in the files that are there by then. -/
private theorem outcome_of_agree (before : List Nat) {j : Nat} {path : String}
    (h : ((start files paths).run parser p job before).tasks[j]? = some (path, .waiting)) :
    outcomes[j]? = some ⟨Path.display path,
      (job.runFile parser p ((start files paths).run parser p job before).files path).2.result⟩ := by
  have hresult := getElem?_run_of_three parser p job h (oneByOne 0 paths.length)
  have hdone := isDone_of_oneByOne parser p job files paths (before ++ List.replicate 3 j)
  rw [← run_append, ← List.append_assoc] at hresult
  rw [← hagree _ hdone, getElem?_outcomes hdone hresult]

/-- If all schedules end alike, then no path leads to a file that the work by another path changes. Otherwise the
text that a task finds would depend on which of the two has its turns first. -/
theorem unchanged_of_agree (htree : files.IsTree) {i j : Nat} {q r : String} {location : Location} (hij : i ≠ j)
    (hq : paths[i]? = some q) (hr : paths[j]? = some r) (hqplace : files.locate q = .ok location)
    (hrplace : files.locate r = .ok location) : (job.runFile parser p files q).1 = files := by
  by_contra hchanged
  obtain ⟨place, text, report, hqwrites⟩ := FileJob.exists_writes hchanged
  obtain rfl : location = place := by simpa using hqplace.symm.trans hqwrites.place
  have hrwrites := hqwrites.of_same_place htree hrplace
  have hqstart : (start files paths).tasks[i]? = some (q, .waiting) := by simp [start, hq]
  have hrstart : (start files paths).tasks[j]? = some (r, .waiting) := by simp [start, hr]
  -- the work by the one path is done first, and then behind that by the other
  have hfirst : outcomes[j]? = some ⟨Path.display r, .ok (text, report)⟩ := by
    have houtcome := outcome_of_agree hagree [] hrstart
    have hwork : job.runFile parser p ((start files paths).run parser p job []).files r = _ := hrwrites.runFile_eq
    rwa [hwork] at houtcome
  have hsecond : outcomes[j]? = some ⟨Path.display r,
      (job.runFile parser p (files.withText location report.updatedText) r).2.result⟩ := by
    have hwork : job.runFile parser p (start files paths).files q = _ := hqwrites.runFile_eq
    have hqrun := run_three parser p job hqstart
    rw [hwork] at hqrun
    have hrnext : ((start files paths).run parser p job (List.replicate 3 i)).tasks[j]? = some (r, .waiting) := by
      rw [hqrun, List.getElem?_set_ne hij, hrstart]
    have houtcome := outcome_of_agree hagree (List.replicate 3 i) hrnext
    rwa [hqrun] at houtcome
  have hsame : (job.runFile parser p (files.withText location report.updatedText) r).2.result =
      .ok (text, report) := by
    have heq := hsecond.symm.trans hfirst
    simpa using heq
  have hreads := FileSystem.readText_withText hrplace hqwrites.file report.updatedText
  obtain ⟨place, hplace, hfile⟩ := FileSystem.readText_eq_ok_iff.1 hreads
  rcases FileJob.runFile_cases parser p job hplace hfile with ⟨-, e, herror, -⟩ | ⟨again, -, hok, -⟩
  · cases herror.symm.trans hsame
  · have hpair : (report.updatedText, again) = (text, report) := Except.ok.inj (hok.symm.trans hsame)
    exact hqwrites.fresh (Prod.mk.inj hpair).1

end

/-- For the files that targets stand for, whatever they are, the following are the same. One: every schedule that gets
all the work done leaves the files that the work on one after the other leaves, with the same outcomes in the order of
the files and the same exit code. Two: if two of the paths lead to one place, then the work on neither of them alone
changes anything. So a file that is named twice makes a difference if there is something to change in it. -/
theorem schedules_agree_iff (parser : Parser) (p : Pipeline) (job : FileJob) (files : FileSystem)
    (exclusions targets : List String) (htree : files.IsTree) :
    let paths := Walk.expand files exclusions targets
    let (after, outcomes) := job.runFiles parser p files paths
    (∀ schedule, let w := (start files paths).run parser p job schedule
        w.isDone = true → w.files = after ∧ w.outcomes = outcomes ∧
          FileOutcome.exitCode w.outcomes = FileOutcome.exitCode outcomes) ↔
      paths.Pairwise fun q r => ∀ location, files.locate q = .ok location → files.locate r = .ok location →
        (job.runFile parser p files q).1 = files ∧ (job.runFile parser p files r).1 = files := by
  intro paths
  obtain ⟨hdone, hsequential⟩ := run_oneByOne parser p job files paths
  rw [← hsequential]
  constructor
  · intro hagree
    have houtcomes : ∀ schedule, ((start files paths).run parser p job schedule).isDone = true → _ :=
      fun schedule hschedule => (hagree schedule hschedule).2.1
    rw [List.pairwise_iff_getElem]
    intro i j hi hj hlt location hqplace hrplace
    have hq := List.getElem?_eq_getElem hi
    have hr := List.getElem?_eq_getElem hj
    exact ⟨unchanged_of_agree houtcomes htree (Nat.ne_of_lt hlt) hq hr hqplace hrplace,
      unchanged_of_agree houtcomes htree (Nat.ne_of_gt hlt) hr hq hrplace hqplace⟩
  · intro hapart schedule w hw
    have hsame : w = (start files paths).run parser p job (oneByOne 0 paths.length) :=
      (faithful_start.run hapart schedule).eq_of_isDone (faithful_start.run hapart _) hw hdone
    rw [hsame]
    exact ⟨rfl, rfl, rfl⟩

open Pipeline (importForVariable)

/-- A directory with two files, in both of which there is something to change. -/
def twoFiles : FileSystem where
  workingDirectory := ["work"]
  entries :=
    [(["work"], .directory), (["work", "a.js"], .file "import \x7b a \x7d from \"m\"; const b = a;".toUTF8),
      (["work", "b.js"], .file "import \x7b a \x7d from \"m\";".toUTF8)]

/-- Two files can be worked on at the same time. -/
theorem schedules_agree_on_two_files :
    let job : FileJob := ⟨.pipeline, true⟩
    let paths := Walk.expand twoFiles [] ["a.js", "b.js"]
    let (after, outcomes) := job.runFiles importForVariable .standard twoFiles paths
    twoFiles.IsTree ∧ outcomes.map (·.changed) = [true, true] ∧
      ∀ schedule, let w := (start twoFiles paths).run importForVariable .standard job schedule
        w.isDone = true → w.files = after ∧ w.outcomes = outcomes ∧
          FileOutcome.exitCode w.outcomes = FileOutcome.exitCode outcomes := by
  have htree : twoFiles.IsTree := by decide +kernel
  have hpaths : Walk.expand twoFiles [] ["a.js", "b.js"] = ["a.js", "b.js"] := by decide +kernel
  have hplaces : (twoFiles.locate "a.js").toOption ≠ (twoFiles.locate "b.js").toOption := by decide +kernel
  intro job paths
  refine ⟨htree, by decide +kernel, ?_⟩
  refine (schedules_agree_iff importForVariable .standard job twoFiles [] ["a.js", "b.js"] htree).2 ?_
  rw [hpaths, List.pairwise_pair]
  intro location ha hb
  exact absurd (by rw [ha, hb]) hplaces

/-- A file that is named twice is worked on twice, and the second run may have more to do than the first. If both texts
are read before one is written, then both runs do the same. -/
theorem schedules_differ_on_repeated_file :
    let job : FileJob := ⟨.pipeline, true⟩
    let paths := Walk.expand twoFiles [] ["a.js", "a.js"]
    let (after, outcomes) := job.runFiles importForVariable .standard twoFiles paths
    let w := (start twoFiles paths).run importForVariable .standard job (inStep 2)
    w.isDone = true ∧ w.outcomes.map (·.results) ≠ outcomes.map (·.results) ∧
      (w.files.readText "a.js").toOption = some "import \x7b a \x7d from \"m\";" ∧
      (after.readText "a.js").toOption = some "" := by
  decide +kernel

end Workbench

end ScriptTidy
