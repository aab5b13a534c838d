import Mathlib.Logic.Function.Basic
import ScriptTidy.Files.FileSystem

/-!
# Contents and names of files

Writing to a file that is there changes its content and nothing else. `withContents` gives some of the files new
contents: all paths lead where they led (`locate_withContents`), other files read as they did, and one more write is
one more new content (`writeText_withContents`).

Where there is a directory around everything (`IsTree`), the paths to a file all end in its name
(`fileName?_of_file`).
-/

namespace ScriptTidy

namespace FileSystem

variable {fs : FileSystem} {new : Location → Option ByteArray} {location : Location} {path text : String}
  {content old : ByteArray}

/-! ### Reading -/

private theorem fromUTF8?_eq_some_iff : String.fromUTF8? content = some text ↔ content = text.toUTF8 := by
  unfold String.fromUTF8?
  constructor
  · intro h
    split at h
    · cases h
      rfl
    · cases h
  · rintro rfl
    exact dif_pos text.isValidUTF8

private theorem read_eq_ok_iff : fs.read path = .ok content ↔
    ∃ location, fs.locate path = .ok location ∧ fs.entry? location = some (.file content) := by
  unfold read
  cases fs.locate path with
  | error e => simp
  | ok location =>
    simp only [Except.ok.injEq, exists_eq_left']
    cases fs.entry? location with
    | none => simp
    | some entry => cases entry <;> simp

/-- A text is read where a file holds its bytes. -/
theorem readText_eq_ok_iff : fs.readText path = .ok text ↔
    ∃ location, fs.locate path = .ok location ∧ fs.entry? location = some (.file text.toUTF8) := by
  rw [← read_eq_ok_iff]
  unfold readText
  cases fs.read path with
  | error e => simp
  | ok content =>
    simp only [Except.ok.injEq]
    rw [← fromUTF8?_eq_some_iff]
    cases String.fromUTF8? content <;> simp

/-! ### Some files with new contents -/

/-- The file system with new contents for some of its files. -/
def withContents (fs : FileSystem) (new : Location → Option ByteArray) : FileSystem :=
  { fs with entries := fs.entries.map fun e => (e.1, ((new e.1).map Entry.file).getD e.2) }

/-- There are files at all the places that get new contents. -/
def HasFiles (fs : FileSystem) (new : Location → Option ByteArray) : Prop :=
  ∀ location content, new location = some content → ∃ old, fs.entry? location = some (.file old)

theorem withContents_none (fs : FileSystem) : fs.withContents (fun _ => none) = fs := by
  simp [withContents]

theorem hasFiles_none (fs : FileSystem) : fs.HasFiles fun _ => none := nofun

theorem HasFiles.update (h : fs.HasFiles new) (hfile : fs.entry? location = some (.file old)) :
    fs.HasFiles (Function.update new location (some content)) := by
  intro other c hc
  by_cases hother : other = location
  · exact ⟨old, hother ▸ hfile⟩
  · rw [Function.update_of_ne hother] at hc
    exact h other c hc

@[simp] theorem entry?_root (fs : FileSystem) : fs.entry? [] = some .directory := rfl

private theorem entry?_of_ne_root (fs : FileSystem) (hroot : location ≠ []) :
    fs.entry? location = fs.entries.lookup location := if_neg hroot

private theorem entry?_withContents (h : fs.HasFiles new) (location : Location) :
    FileSystem.entry? (fs.withContents new) location =
      (fs.entry? location).map fun entry => ((new location).map Entry.file).getD entry := by
  by_cases hroot : location = []
  · have hnone : new location = none := by
      rw [Option.eq_none_iff_forall_ne_some]
      intro content hcontent
      obtain ⟨old, hold⟩ := h location content hcontent
      simp [hroot] at hold
    simp [hroot, hroot ▸ hnone]
  · rw [entry?_of_ne_root _ hroot, entry?_of_ne_root _ hroot, withContents]
    induction fs.entries with
    | nil => rfl
    | cons e entries ih =>
      rw [List.map_cons, List.lookup_cons, List.lookup_cons, ih]
      split
      · rename_i heq
        rw [beq_iff_eq.1 heq, Option.map_some]
      · rfl

theorem entry?_withContents_of_none (h : fs.HasFiles new) (hnone : new location = none) :
    FileSystem.entry? (fs.withContents new) location = fs.entry? location := by
  rw [entry?_withContents h, hnone]
  cases fs.entry? location <;> rfl

private theorem entry?_withContents_of_some (h : fs.HasFiles new) (hsome : new location = some content) :
    FileSystem.entry? (fs.withContents new) location = some (.file content) := by
  obtain ⟨old, hold⟩ := h location content hsome
  rw [entry?_withContents h, hold, hsome]
  rfl

/-- Files stay files, and directories stay directories. -/
private theorem entry?_withContents_cases (h : fs.HasFiles new) (location : Location) :
    (∃ old content, fs.entry? location = some (.file old) ∧
      FileSystem.entry? (fs.withContents new) location = some (.file content)) ∨
    (∀ old, fs.entry? location ≠ some (.file old)) ∧
      FileSystem.entry? (fs.withContents new) location = fs.entry? location := by
  cases hnew : new location with
  | some content =>
    obtain ⟨old, hold⟩ := h location content hnew
    exact .inl ⟨old, content, hold, entry?_withContents_of_some h hnew⟩
  | none =>
    have hsame := entry?_withContents_of_none h hnew
    by_cases hfile : ∃ old, fs.entry? location = some (.file old)
    · obtain ⟨old, hold⟩ := hfile
      exact .inl ⟨old, old, hold, hsame.trans hold⟩
    · exact .inr ⟨fun old hold => hfile ⟨old, hold⟩, hsame⟩

private theorem follow_withContents (h : fs.HasFiles new) (location : Location) (steps : List Path.Step) :
    (fs.withContents new).follow location steps = fs.follow location steps := by
  induction steps generalizing location with
  | nil => rfl
  | cons step steps ih =>
    simp only [follow, ih]
    rcases entry?_withContents_cases h location with ⟨old, content, hold, hcontent⟩ | ⟨-, hsame⟩
    · rw [hold, hcontent]
    · rw [hsame]

/-- All paths lead where they led. -/
theorem locate_withContents (h : fs.HasFiles new) (path : String) :
    (fs.withContents new).locate path = fs.locate path := by
  have hstart : (fs.withContents new).workingDirectory = fs.workingDirectory := rfl
  simp only [locate, hstart, follow_withContents h]
  split
  · rfl
  · split
    · rfl
    · rename_i location hlocation
      rcases entry?_withContents_cases h location with ⟨old, content, hold, hcontent⟩ | ⟨-, hsame⟩
      · rw [hold, hcontent]
      · rw [hsame]

/-! ### Writing -/

private theorem mem_entries_of_ne_root {entry : Entry} (h : fs.entry? location = some entry) (hroot : location ≠ []) :
    (location, entry) ∈ fs.entries := by
  rw [entry?_of_ne_root _ hroot] at h
  obtain ⟨before, behind, hentries, -⟩ := List.lookup_eq_some_iff.1 h
  rw [hentries]
  exact List.mem_append_right _ List.mem_cons_self

private theorem ne_root_of_file (h : fs.entry? location = some (.file old)) : location ≠ [] := by
  rintro rfl
  cases h

/-- To put a file in the place of another is to give it a new content. -/
private theorem put_withContents (hfile : fs.entry? location = some (.file old)) :
    (fs.withContents new).put location (.file content) =
      fs.withContents (Function.update new location (some content)) := by
  have hmem := mem_entries_of_ne_root hfile (ne_root_of_file hfile)
  have hany : (fs.withContents new).entries.any (·.1 = location) = true := by
    simp only [withContents, List.any_map, List.any_eq_true, Function.comp_apply, decide_eq_true_eq]
    exact ⟨_, hmem, rfl⟩
  rw [put, if_pos hany]
  simp only [withContents, List.map_map]
  congr 1
  refine List.map_congr_left fun e _ => ?_
  by_cases he : e.1 = location
  · simp [he]
  · simp [he]

/-- A write to a file gives it a new content, unless it is protected. -/
theorem writeText_withContents (h : fs.HasFiles new) (hplace : fs.locate path = .ok location)
    (hfile : fs.entry? location = some (.file old)) (text : String) :
    (fs.withContents new).writeText path text =
      if fs.writeProtected.contains location then .error .permissionDenied
      else .ok (fs.withContents (Function.update new location (some text.toUTF8))) := by
  have hprotected : (fs.withContents new).writeProtected = fs.writeProtected := rfl
  unfold writeText
  rw [locate_withContents h, hplace]
  rcases entry?_withContents_cases h location with ⟨old, content, -, hcontent⟩ | ⟨hnot, -⟩
  · simp only [hcontent, hprotected, put_withContents hfile]
  · exact absurd hfile (hnot old)

/-- The file system with another text at one place. -/
def withText (fs : FileSystem) (location : Location) (text : String) : FileSystem :=
  fs.withContents (Function.update (fun _ => none) location (some text.toUTF8))

/-- What was written is read again. -/
theorem readText_withText (hplace : fs.locate path = .ok location) (hfile : fs.entry? location = some (.file old))
    (text : String) : (fs.withText location text).readText path = .ok text := by
  have hfits : fs.HasFiles (Function.update (fun _ => none) location (some text.toUTF8)) :=
    (hasFiles_none fs).update hfile
  rw [readText_eq_ok_iff]
  exact ⟨location, (locate_withContents hfits path).trans hplace,
    entry?_withContents_of_some hfits (Function.update_self ..)⟩

/-- Everything else is as it was. -/
theorem entry?_withText_of_ne (hfile : fs.entry? location = some (.file old)) {other : Location}
    (hother : other ≠ location) (text : String) :
    FileSystem.entry? (fs.withText location text) other = fs.entry? other :=
  entry?_withContents_of_none ((hasFiles_none fs).update hfile) (Function.update_of_ne hother ..)

/-! ### Names -/

/-- There is a directory around everything, and the working directory is one. -/
def IsTree (fs : FileSystem) : Prop :=
  fs.entry? fs.workingDirectory = some .directory ∧
    ∀ e ∈ fs.entries, fs.entry? e.1.dropLast = some .directory

instance (fs : FileSystem) : Decidable fs.IsTree := inferInstanceAs (Decidable (_ ∧ _))

theorem IsTree.above (h : fs.IsTree) {entry : Entry} (hentry : fs.entry? location = some entry) :
    fs.entry? location.dropLast = some .directory := by
  by_cases hroot : location = []
  · simp [hroot]
  · exact h.2 _ (mem_entries_of_ne_root hentry hroot)

/-- From a directory, only steps that end in a name lead to a file, and it has that name. -/
private theorem IsTree.last_step (h : fs.IsTree) {place : Location} {steps : List Path.Step}
    (hstart : fs.entry? place = some .directory) (hfollow : fs.follow place steps = .ok location)
    (hfile : fs.entry? location = some (.file old)) :
    ∃ name, steps.getLast? = some (.name name) ∧ location.getLast? = some name := by
  induction steps generalizing place with
  | nil =>
    obtain rfl : place = location := by simpa [follow] using hfollow
    cases hstart.symm.trans hfile
  | cons step steps ih =>
    have hlast : ∀ {next}, fs.entry? next = some .directory → fs.follow next steps = .ok location →
        ∃ name, (step :: steps).getLast? = some (.name name) ∧ location.getLast? = some name := by
      intro next hnext hrest
      obtain ⟨name, hname, hlocation⟩ := ih hnext hrest
      exact ⟨name, by rw [List.getLast?_cons, hname]; rfl, hlocation⟩
    simp only [follow, hstart] at hfollow
    cases step with
    | root => exact hlast fs.entry?_root hfollow
    | here => exact hlast hstart hfollow
    | up => exact hlast (h.above hstart) hfollow
    | name text =>
      -- the name is the last step, or that of one more directory
      cases steps with
      | nil =>
        obtain rfl : place ++ [text] = location := by simpa [follow] using hfollow
        exact ⟨text, rfl, by simp⟩
      | cons next steps =>
        have hnext : fs.entry? (place ++ [text]) = some .directory := by
          simp only [follow] at hfollow
          split at hfollow
          · cases hfollow
          · cases hfollow
          · assumption
        exact hlast hnext hfollow

private theorem follow_of_locate (h : fs.locate path = .ok location) :
    fs.follow (if Path.isAbsolute path then [] else fs.workingDirectory) (Path.steps path) = .ok location := by
  unfold locate at h
  split at h
  · cases h
  · split at h
    · cases h
    · rename_i place hplace
      split at h
      · split at h
        · cases h
        · exact hplace.trans h
      · exact hplace.trans h

/-- All paths to a file end in its name. -/
theorem IsTree.fileName?_of_file (h : fs.IsTree) (hplace : fs.locate path = .ok location)
    (hfile : fs.entry? location = some (.file old)) : Path.fileName? path = location.getLast? := by
  have hstart : fs.entry? (if Path.isAbsolute path then [] else fs.workingDirectory) = some .directory := by
    split
    · exact fs.entry?_root
    · exact h.1
  obtain ⟨name, hlast, hlocation⟩ := h.last_step hstart (follow_of_locate hplace) hfile
  rw [Path.fileName?, hlast, hlocation]

end FileSystem

end ScriptTidy
