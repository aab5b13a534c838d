import ScriptTidy.Files.Walk
import ScriptTidy.Proofs.Run.FileJobs

/-!
# Schedules

Several files are worked on step by step, in the order that a schedule gives. Three turns of one path are the work on
its file (`run_three`), so that the work on one file after the other is a schedule too (`run_oneByOne`), and three turns
for each path are enough (`isDone_of_three_turns`).
-/

namespace ScriptTidy

namespace FileJob

variable (parser : Parser) (p : Pipeline) (job : FileJob)

/-! ### What is left to do -/

/-- The number of steps that are left at most. -/
def remaining : Progress → Nat
  | .waiting => 3
  | .read _ => 2
  | .run .. => 1
  | .done _ => 0

/-- The work that is left, all at once. -/
def finish (host : FileHost) : Progress → FileHost × Except FileFailure (String × RunReport)
  | .waiting => job.runOn parser p host
  | .read snapshot =>
    match job.task.run parser p snapshot.text snapshot.file with
    | .error e => (host, .error (.run e))
    | .ok report =>
      if report.updatedText = snapshot.text then (host, .ok (snapshot.text, report))
      else handOver host snapshot.text report
  | .run text report => handOver host text report
  | .done result => (host, result)

variable {parser p job} {host : FileHost} {progress : Progress}

private theorem remaining_advance (parser : Parser) (p : Pipeline) (job : FileJob) (host : FileHost)
    (progress : Progress) :
    remaining (job.advance parser p host progress).2 ≤ remaining progress - 1 := by
  cases progress with
  | waiting =>
    simp only [advance]
    cases Host.snapshot host with
    | none => simp [remaining]
    | some snapshot => simp [remaining]
  | read snapshot =>
    simp only [advance]
    cases job.task.run parser p snapshot.text snapshot.file with
    | error e => simp [remaining]
    | ok report =>
      dsimp only
      split
      · simp [remaining]
      · simp [remaining]
  | run text report => simp [advance, remaining]
  | done result => simp [advance, remaining]

private theorem remaining_le (progress : Progress) : remaining progress ≤ 3 := by
  cases progress <;> simp [remaining]

private theorem exists_of_remaining_eq_zero (h : remaining progress = 0) : ∃ result, progress = .done result := by
  cases progress with
  | done result => exact ⟨result, rfl⟩
  | _ => cases h

/-- A step does not change what the work comes to. -/
private theorem finish_advance :
    job.finish parser p (job.advance parser p host progress).1 (job.advance parser p host progress).2 =
      job.finish parser p host progress := by
  cases progress with
  | waiting =>
    simp only [advance, finish, runOn]
    cases Host.snapshot host with
    | none => rfl
    | some snapshot => rfl
  | read snapshot =>
    simp only [advance, finish]
    cases job.task.run parser p snapshot.text snapshot.file with
    | error e => rfl
    | ok report =>
      by_cases hsame : report.updatedText = snapshot.text
      · simp only [if_pos hsame]
      · simp only [if_neg hsame]
  | run text report => rfl
  | done result => rfl

/-- Of the host of a file only the files change. -/
private theorem host_advance (files : FileSystem) (path : String) :
    job.host (job.advance parser p (job.host files path) progress).1.files path =
      (job.advance parser p (job.host files path) progress).1 := by
  cases progress with
  | waiting =>
    simp only [advance]
    split
    · rfl
    · rfl
  | read snapshot =>
    simp only [advance]
    split
    · rfl
    · split
      · rfl
      · rfl
  | run text report =>
    obtain ⟨task, write⟩ := job
    simp only [advance, handOver, Host.accept, host]
    cases write with
    | false => rfl
    | true =>
      simp only [if_true]
      cases files.writeText path report.updatedText with
      | error e => rfl
      | ok written => rfl
  | done result => rfl

end FileJob

namespace Workbench

variable {parser : Parser} {p : Pipeline} {job : FileJob} {w : Workbench} {path : String} {progress : Progress}
  {i j : Nat}

/-! ### Turns -/

theorem run_append (w : Workbench) (s t : List Nat) :
    w.run parser p job (s ++ t) = (w.run parser p job s).run parser p job t :=
  List.foldl_append

theorem turn_of_getElem? (parser : Parser) (p : Pipeline) (job : FileJob) (h : w.tasks[i]? = some (path, progress)) :
    w.turn parser p job i = ⟨(job.advance parser p (job.host w.files path) progress).1.files,
      w.tasks.set i (path, (job.advance parser p (job.host w.files path) progress).2)⟩ := by
  simp only [turn, h]

theorem turn_of_none (h : w.tasks[i]? = none) : w.turn parser p job i = w := by
  simp only [turn, h]

private theorem getElem?_turn_of_ne (hne : i ≠ j) : (w.turn parser p job i).tasks[j]? = w.tasks[j]? := by
  cases h : w.tasks[i]? with
  | none => rw [turn_of_none h]
  | some task => rw [turn_of_getElem? _ _ _ h, List.getElem?_set_ne hne]

private theorem getElem?_turn_self (h : w.tasks[i]? = some (path, progress)) :
    (w.turn parser p job i).tasks[i]? =
      some (path, (job.advance parser p (job.host w.files path) progress).2) := by
  have hi := (List.getElem?_eq_some_iff.1 h).1
  rw [turn_of_getElem? _ _ _ h, List.getElem?_set_self hi]

/-- Every path stays where it is. -/
theorem map_fst_turn (i : Nat) : (w.turn parser p job i).tasks.map (·.1) = w.tasks.map (·.1) := by
  cases h : w.tasks[i]? with
  | none => rw [turn_of_none h]
  | some task =>
    apply List.ext_getElem?
    intro j
    rw [List.getElem?_map, List.getElem?_map]
    by_cases hij : i = j
    · subst hij
      rw [getElem?_turn_self h, h]
      rfl
    · rw [getElem?_turn_of_ne hij]

private theorem map_fst_run (parser : Parser) (p : Pipeline) (job : FileJob) (w : Workbench) (schedule : List Nat) :
    (w.run parser p job schedule).tasks.map (·.1) = w.tasks.map (·.1) := by
  induction schedule generalizing w with
  | nil => rfl
  | cons i schedule ih => exact (ih (w.turn parser p job i)).trans (map_fst_turn i)

/-- Turns in a row of one path are steps of its work, which comes to what it would have come to. -/
private theorem exists_run_replicate (parser : Parser) (p : Pipeline) (job : FileJob)
    (h : w.tasks[i]? = some (path, progress)) (n : Nat) :
    ∃ files next, w.run parser p job (List.replicate n i) = ⟨files, w.tasks.set i (path, next)⟩ ∧
      FileJob.remaining next ≤ FileJob.remaining progress - n ∧
      job.finish parser p (job.host files path) next = job.finish parser p (job.host w.files path) progress := by
  induction n generalizing w progress with
  | zero =>
    refine ⟨w.files, progress, ?_, Nat.le_refl _, rfl⟩
    obtain ⟨hi, hget⟩ := List.getElem?_eq_some_iff.1 h
    rw [← hget, List.set_getElem_self]
    rfl
  | succ n ih =>
    have hturn := turn_of_getElem? parser p job h
    obtain ⟨files, last, hrun, hremaining, hfinish⟩ := ih (getElem?_turn_self h)
    refine ⟨files, last, ?_, ?_, ?_⟩
    · rw [List.replicate_succ]
      change (w.turn parser p job i).run parser p job (List.replicate n i) = _
      rw [hrun, hturn, List.set_set]
    · have hstep := FileJob.remaining_advance parser p job (job.host w.files path) progress
      omega
    · rw [hfinish, hturn, FileJob.host_advance, FileJob.finish_advance]

/-- Three turns in a row are the work on the file. -/
theorem run_three (parser : Parser) (p : Pipeline) (job : FileJob) (h : w.tasks[i]? = some (path, .waiting)) :
    w.run parser p job (List.replicate 3 i) = ⟨(job.runFile parser p w.files path).1,
      w.tasks.set i (path, .done (job.runFile parser p w.files path).2.result)⟩ := by
  obtain ⟨files, next, hrun, hremaining, hfinish⟩ := exists_run_replicate parser p job h 3
  obtain ⟨result, rfl⟩ := FileJob.exists_of_remaining_eq_zero (Nat.le_zero.1 hremaining)
  have hwork : (job.host files path, result) = job.runOn parser p (job.host w.files path) := hfinish
  rw [hrun, FileJob.runFile, ← hwork]
  rfl

/-- The schedule by which all the work on a path is done before that on the next begins. -/
def oneByOne (first count : Nat) : List Nat := (List.range' first count).flatMap (List.replicate 3)

/-- To work on files one after the other is to follow a schedule. -/
private theorem exists_run_oneByOne (parser : Parser) (p : Pipeline) (job : FileJob) (files : FileSystem)
    (front : List (String × Progress)) (paths : List String) :
    ∃ tasks, (⟨files, front ++ paths.map (·, .waiting)⟩ : Workbench).run parser p job
        (oneByOne front.length paths.length) = ⟨(job.runFiles parser p files paths).1, front ++ tasks⟩ ∧
      (⟨files, tasks⟩ : Workbench).isDone = true ∧
      (⟨files, tasks⟩ : Workbench).outcomes = (job.runFiles parser p files paths).2 := by
  induction paths generalizing files front with
  | nil => exact ⟨[], rfl, rfl, rfl⟩
  | cons path paths ih =>
    rcases hwork : job.runFile parser p files path with ⟨after, outcome⟩
    obtain ⟨tasks, hrun, hdone, houtcomes⟩ := ih after (front ++ [(path, .done outcome.result)])
    have hwaiting : (front ++ (path :: paths).map (·, Progress.waiting))[front.length]? = some (path, .waiting) := by
      simp
    have hfirst : (⟨files, front ++ (path :: paths).map (·, .waiting)⟩ : Workbench).run parser p job
        (List.replicate 3 front.length) =
          ⟨after, front ++ [(path, .done outcome.result)] ++ paths.map (·, .waiting)⟩ := by
      rw [run_three parser p job (w := ⟨files, _⟩) hwaiting, hwork]
      simp
    have hschedule : oneByOne front.length (path :: paths).length = List.replicate 3 front.length ++
        oneByOne (front ++ [(path, Progress.done outcome.result)]).length paths.length := by
      simp [oneByOne, List.range'_succ]
    have hname : outcome.file = Path.display path := by
      rw [FileJob.runFile] at hwork
      rw [← (Prod.mk.inj hwork).2]
    refine ⟨(path, .done outcome.result) :: tasks, ?_, ?_, ?_⟩
    · rw [hschedule, run_append, hfirst, hrun]
      simp [FileJob.runFiles, hwork]
    · simpa [isDone, Progress.isDone] using hdone
    · simp only [outcomes] at houtcomes
      simp [outcomes, FileJob.runFiles, hwork, houtcomes, ← hname]

theorem run_oneByOne (parser : Parser) (p : Pipeline) (job : FileJob) (files : FileSystem) (paths : List String) :
    let w := (start files paths).run parser p job (oneByOne 0 paths.length)
    w.isDone = true ∧ (w.files, w.outcomes) = job.runFiles parser p files paths := by
  obtain ⟨tasks, hrun, hdone, houtcomes⟩ := exists_run_oneByOne parser p job files [] paths
  have hstart : start files paths = ⟨files, [] ++ paths.map (·, .waiting)⟩ := rfl
  intro w
  have hw : w = ⟨(job.runFiles parser p files paths).1, [] ++ tasks⟩ := by
    rw [← hrun, ← hstart]
    rfl
  rw [hw]
  exact ⟨hdone, Prod.ext rfl houtcomes⟩

/-! ### How far a schedule gets -/

/-- Each turn of a path takes its work one step on. -/
private theorem exists_getElem?_run (parser : Parser) (p : Pipeline) (job : FileJob)
    (h : w.tasks[i]? = some (path, progress)) (schedule : List Nat) :
    ∃ next, (w.run parser p job schedule).tasks[i]? = some (path, next) ∧
      FileJob.remaining next ≤ FileJob.remaining progress - schedule.count i := by
  induction schedule generalizing w progress with
  | nil => exact ⟨progress, h, Nat.le_refl _⟩
  | cons j schedule ih =>
    by_cases hij : j = i
    · subst hij
      have hself : (w.turn parser p job j).tasks[j]? = _ := getElem?_turn_self h
      obtain ⟨next, hnext, hle⟩ := ih hself
      have hstep := FileJob.remaining_advance parser p job (job.host w.files path) progress
      refine ⟨next, hnext, ?_⟩
      rw [List.count_cons_self]
      omega
    · have hsame : (w.turn parser p job j).tasks[i]? = some (path, progress) := by
        rw [getElem?_turn_of_ne hij, h]
      obtain ⟨next, hnext, hle⟩ := ih hsame
      refine ⟨next, hnext, ?_⟩
      rwa [List.count_cons_of_ne hij]

/-- What is done stays as it is. -/
theorem getElem?_run_of_done {result : Except FileFailure (String × RunReport)}
    (h : w.tasks[i]? = some (path, .done result)) (schedule : List Nat) :
    (w.run parser p job schedule).tasks[i]? = some (path, .done result) := by
  induction schedule generalizing w with
  | nil => exact h
  | cons j schedule ih =>
    apply ih
    by_cases hij : j = i
    · subst hij
      exact getElem?_turn_self h
    · rw [getElem?_turn_of_ne hij, h]

/-- Three turns for each path are enough. -/
theorem isDone_of_three_turns (parser : Parser) (p : Pipeline) (job : FileJob) {schedule : List Nat}
    (h : ∀ i < w.tasks.length, 3 ≤ schedule.count i) : (w.run parser p job schedule).isDone = true := by
  rw [isDone, List.all_eq_true]
  intro task htask
  obtain ⟨i, hi⟩ := List.getElem?_of_mem htask
  have hlength : (w.run parser p job schedule).tasks.length = w.tasks.length := by
    have hpaths := congrArg List.length (map_fst_run parser p job w schedule)
    simpa using hpaths
  have hlt : i < w.tasks.length := hlength ▸ (List.getElem?_eq_some_iff.1 hi).1
  rcases hget : w.tasks[i] with ⟨path, progress⟩
  have hstart : w.tasks[i]? = some (path, progress) := by rw [List.getElem?_eq_getElem hlt, hget]
  obtain ⟨next, hnext, hle⟩ := exists_getElem?_run parser p job hstart schedule
  obtain rfl : task = (path, next) := Option.some.inj (hi.symm.trans hnext)
  have hthree := h i hlt
  have hmost := FileJob.remaining_le progress
  have hzero : FileJob.remaining next = 0 := by omega
  obtain ⟨result, rfl⟩ := FileJob.exists_of_remaining_eq_zero hzero
  rfl

theorem three_le_count_oneByOne {first count : Nat} (h : i ∈ List.range' first count) :
    3 ≤ (oneByOne first count).count i := by
  induction count generalizing first with
  | zero => simp at h
  | succ count ih =>
    have hschedule : oneByOne first (count + 1) = List.replicate 3 first ++ oneByOne (first + 1) count := by
      simp [oneByOne, List.range'_succ]
    rw [hschedule, List.count_append]
    rw [List.range'_succ] at h
    rcases List.mem_cons.1 h with rfl | h
    · rw [List.count_replicate_self]
      omega
    · have hrest := ih h
      omega

end Workbench

end ScriptTidy
