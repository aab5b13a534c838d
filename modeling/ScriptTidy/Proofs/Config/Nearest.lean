import ScriptTidy.Config.Lookup
import ScriptTidy.Proofs.Files.Paths

/-!
# The nearest configuration

A directory offers the configuration in its configuration file, or else the one in its package manifest. A file that
cannot be used counts as missing (`inDirectory?_eq_some_iff`). The configuration of a path is what the first directory
offers that offers one, from the path up to the root (`nearest_is_first_offered`).
-/

namespace ScriptTidy

namespace Config

variable {fs : FileSystem} {path directory : String} {found : Found}

/-! ### One directory -/

/-- The file at a path can be read and is a configuration file. -/
def IsConfigFile (fs : FileSystem) (path : String) (config : Config) : Prop :=
  ∃ text, fs.readText path = .ok text ∧ ofToml text = .ok config

/-- The file at a path can be read and is a manifest with a section for a configuration. -/
def IsManifest (fs : FileSystem) (path : String) (config : Config) : Prop :=
  ∃ text, fs.readText path = .ok text ∧ ofManifest text = .ok (some config)

/-- What a directory has to offer. -/
inductive Offers (fs : FileSystem) (directory : String) : Found → Prop
  | file {config : Config} : IsConfigFile fs (Path.join directory fileName) config →
    Offers fs directory ⟨config, some (Path.join directory fileName)⟩
  /-- The manifest counts where there is no configuration file that can be used. -/
  | manifest {config : Config} : (∀ other, ¬ IsConfigFile fs (Path.join directory fileName) other) →
    IsManifest fs (Path.join directory manifestName) config →
    Offers fs directory ⟨config, some (Path.join directory manifestName)⟩

def OffersNothing (fs : FileSystem) (directory : String) : Prop := ∀ found, ¬ Offers fs directory found

private theorem inFile?_eq_some_iff : inFile? fs directory = some found ↔
    ∃ config, IsConfigFile fs (Path.join directory fileName) config ∧
      found = ⟨config, some (Path.join directory fileName)⟩ := by
  unfold inFile? IsConfigFile
  cases hread : fs.readText (Path.join directory fileName) with
  | error e => simp [hread]
  | ok text => cases hconfig : ofToml text <;> simp [hread, hconfig, eq_comm]

private theorem inManifest?_eq_some_iff : inManifest? fs directory = some found ↔
    ∃ config, IsManifest fs (Path.join directory manifestName) config ∧
      found = ⟨config, some (Path.join directory manifestName)⟩ := by
  unfold inManifest? IsManifest
  cases hread : fs.readText (Path.join directory manifestName) with
  | error e => simp [hread]
  | ok text =>
    cases hconfig : ofManifest text with
    | error e => simp [hread, hconfig]
    | ok config? => cases config? <;> simp [hread, hconfig, eq_comm]

/-- A directory tells what it has to offer. -/
theorem inDirectory?_eq_some_iff : inDirectory? fs directory = some found ↔ Offers fs directory found := by
  unfold inDirectory?
  constructor
  · intro h
    rcases Option.or_eq_some_iff.1 h with hfile | ⟨hnone, hmanifest⟩
    · obtain ⟨config, hconfig, rfl⟩ := inFile?_eq_some_iff.1 hfile
      exact .file hconfig
    · obtain ⟨config, hconfig, rfl⟩ := inManifest?_eq_some_iff.1 hmanifest
      refine .manifest (fun other hother => ?_) hconfig
      cases hnone.symm.trans (inFile?_eq_some_iff.2 ⟨other, hother, rfl⟩)
  · intro h
    cases h with
    | file hconfig => exact Option.or_eq_some_iff.2 (.inl (inFile?_eq_some_iff.2 ⟨_, hconfig, rfl⟩))
    | manifest hnone hconfig =>
      have hfile : inFile? fs directory = none := by
        refine Option.eq_none_iff_forall_ne_some.2 fun found hfound => ?_
        obtain ⟨other, hother, -⟩ := inFile?_eq_some_iff.1 hfound
        exact hnone other hother
      exact Option.or_eq_some_iff.2 (.inr ⟨hfile, inManifest?_eq_some_iff.2 ⟨_, hconfig, rfl⟩⟩)

private theorem inDirectory?_eq_none_iff : inDirectory? fs directory = none ↔ OffersNothing fs directory := by
  rw [Option.eq_none_iff_forall_ne_some]
  exact forall_congr' fun found => not_congr inDirectory?_eq_some_iff

private theorem Offers.exists_path (h : Offers fs directory found) : ∃ file, found.path = some file := by
  cases h <;> exact ⟨_, rfl⟩

/-! ### The way up -/

/-- The root is no file. -/
private theorem exists_parent_of_isFile (h : Path.isAbsolute path = true) (hfile : fs.isFile path = true) :
    ∃ above, Path.parent? path = some above := by
  rcases Path.parent?_cases h with ⟨hsteps, -⟩ | ⟨above, hparent, -⟩
  · have hne : path ≠ "" := by
      rintro rfl
      obtain ⟨cs, hcs⟩ := Path.isAbsolute_iff.1 h
      cases hcs
    have hroot : fs.find? path = some .directory := by
      simp [FileSystem.find?, FileSystem.locate, hne, h, hsteps, FileSystem.follow, FileSystem.entry?]
    simp [FileSystem.isFile, hroot] at hfile
  · exact ⟨above, hparent⟩

/-- The search starts at the path or, if that is a file, at its directory. -/
private theorem candidates_eq (fs : FileSystem) (h : Path.isAbsolute path = true) :
    ∃ start, Path.isAbsolute start = true ∧
    candidates fs path = Path.ancestors start ∧
    if fs.isFile path = true then Path.parent? path = some start else start = path := by
  unfold candidates
  by_cases hfile : fs.isFile path = true
  · obtain ⟨start, hstart⟩ := exists_parent_of_isFile h hfile
    rcases Path.parent?_cases h with ⟨-, hnone⟩ | ⟨above, hparent, habove, -⟩
    · cases hnone.symm.trans hstart
    · exact ⟨above, habove, by simp [hfile, hparent], by simp [hfile, hparent]⟩
  · exact ⟨path, h, by simp [hfile], by simp [hfile]⟩

/-- From an absolute path, or from the directory around it if it is a file, the search goes through the directories
above, one for each step of the path, up to the root. The configuration of the path is what the first of them offers
that offers one, with the path of the file, or the standard one without a path if none of them does. -/
theorem nearest_is_first_offered (fs : FileSystem) (path : String) (habsolute : Path.isAbsolute path = true) :
    ∃ start directories, (if fs.isFile path = true then Path.parent? path = some start else start = path) ∧
      Path.LeadsUp start directories ∧
      directories.map Path.steps = (Path.steps start).inits.tail.reverse ∧
      (∀ found, nearest fs path = found ↔
        (∃ front directory back, directories = front ++ directory :: back ∧ Offers fs directory found ∧
          ∀ d ∈ front, OffersNothing fs d) ∨
        found = ⟨standard, none⟩ ∧ ∀ d ∈ directories, OffersNothing fs d) ∧
      ((nearest fs path).path = none ↔ ∀ d ∈ directories, OffersNothing fs d) := by
  obtain ⟨start, hstart, hcandidates, hfrom⟩ := candidates_eq fs habsolute
  have hleads := Path.leadsUp_ancestors hstart
  refine ⟨start, Path.ancestors start, hfrom, hleads, hleads.map_steps hstart, ?_⟩
  have hsome : ∀ found, (Path.ancestors start).findSome? (inDirectory? fs) = some found ↔
      ∃ front directory back, Path.ancestors start = front ++ directory :: back ∧ Offers fs directory found ∧
        ∀ d ∈ front, OffersNothing fs d := by
    intro found
    simp only [List.findSome?_eq_some_iff, inDirectory?_eq_some_iff, inDirectory?_eq_none_iff]
  have hnone : (Path.ancestors start).findSome? (inDirectory? fs) = none ↔
      ∀ d ∈ Path.ancestors start, OffersNothing fs d := by
    simp only [List.findSome?_eq_none_iff, inDirectory?_eq_none_iff]
  unfold nearest
  rw [hcandidates]
  cases hfound : (Path.ancestors start).findSome? (inDirectory? fs) with
  | some first =>
    have hfirst := (hsome first).1 hfound
    have hnot : ¬ ∀ d ∈ Path.ancestors start, OffersNothing fs d := by
      rw [← hnone, hfound]
      exact nofun
    obtain ⟨-, directory, -, -, hoffers, -⟩ := hfirst
    obtain ⟨file, hfile⟩ := hoffers.exists_path
    constructor
    · intro found
      rw [← hsome, hfound]
      simp [hnot]
    · simp [hnot, hfile]
  | none =>
    have hall := hnone.1 hfound
    constructor
    · intro found
      rw [← hsome, hfound, and_iff_left hall]
      simp [eq_comm]
    · exact ⟨fun _ => hall, fun _ => rfl⟩

/-- A project with a broken configuration file, a manifest that has a section, and a source below. -/
def brokenProject : FileSystem where
  workingDirectory := []
  entries := [
    (["p"], .directory),
    (["p", ".neatify.toml"], .file "[neatify".toUTF8),
    (["p", "package.json"], .file "\x7b\"neatify\": \x7b\"verify\": false\x7d\x7d".toUTF8),
    (["p", "src"], .directory),
    (["p", "src", "a.js"], .file "".toUTF8)]

/-- The source's own directory has nothing to offer, and the broken file falls through to the manifest beside it. -/
theorem nearest_is_first_offered_behind_broken :
    Path.isAbsolute "/p/src/a.js" = true ∧
    ∃ config, nearest brokenProject "/p/src/a.js" = ⟨config, some "/p/package.json"⟩ ∧ config.verify = some false ∧
      ∃ directories front directory back, Path.LeadsUp "/p/src" directories ∧
        directories = front ++ directory :: back ∧
        Offers brokenProject directory ⟨config, some "/p/package.json"⟩ ∧
        ∀ d ∈ front, OffersNothing brokenProject d := by
  have habsolute : Path.isAbsolute "/p/src/a.js" = true := by decide +kernel
  have hfile : brokenProject.isFile "/p/src/a.js" = true := by decide +kernel
  have hparent : Path.parent? "/p/src/a.js" = some "/p/src" := by decide +kernel
  have hnearest : nearest brokenProject "/p/src/a.js" =
      ⟨⟨none, [], none, none, some false, none⟩, some "/p/package.json"⟩ := by decide +kernel
  obtain ⟨start, directories, hfrom, hleads, -, hfirst, -⟩ := nearest_is_first_offered brokenProject _ habsolute
  rw [if_pos hfile, hparent] at hfrom
  cases hfrom
  rcases (hfirst _).1 hnearest with ⟨front, directory, back, hsplit, hoffers, hfront⟩ | ⟨hstandard, -⟩
  · exact ⟨habsolute, _, hnearest, rfl, directories, front, directory, back, hleads, hsplit, hoffers, hfront⟩
  · cases hstandard

end Config

end ScriptTidy
