import Mathlib.Data.List.DropRight
import Mathlib.Data.List.Infix
import ScriptTidy.Files.Path

/-!
# The way up from a path

A path is split at its slashes, which loses nothing, so that paths can be told by their segments. The parent of an
absolute path has the steps of the path without the last one (`parent?_cases`). So the paths above it are one for
each of its steps, from the path itself up to the root (`leadsUp_ancestors`).
-/

namespace ScriptTidy

namespace Path

/-! ### Segments -/

private theorem not_mem_of_mem_splitOn {mark : Char} {cs piece : List Char} (h : piece ∈ cs.splitOn mark) :
    mark ∉ piece := by
  induction cs generalizing piece with
  | nil =>
    obtain rfl : piece = [] := by simpa using h
    exact List.not_mem_nil
  | cons c cs ih =>
    rw [List.splitOn_cons_eq_if_modifyHead] at h
    split at h
    · rcases List.mem_cons.1 h with rfl | h
      · exact List.not_mem_nil
      · exact ih h
    · rename_i hc
      obtain ⟨first, rest, hsplit⟩ := List.exists_cons_of_ne_nil (List.splitOn_ne_nil mark cs)
      rw [hsplit, List.modifyHead_cons] at h
      rcases List.mem_cons.1 h with rfl | h
      · have hfirst : mark ∉ first := ih (by simp [hsplit])
        have hne : mark ≠ c := fun heq => hc (by simp [← heq])
        simp [hfirst, hne]
      · exact ih (by simp [hsplit, h])

private theorem not_mem_of_mem_pieces {mark : Char} {text piece : String} (h : piece ∈ pieces mark text) :
    mark ∉ piece.toList := by
  obtain ⟨cs, hcs, rfl⟩ := List.mem_map.1 h
  simpa using not_mem_of_mem_splitOn hcs

/-- Names without slashes are found again when they are put together. -/
private theorem segments_intercalate {names : List String} (hne : names ≠ []) (h : ∀ s ∈ names, '/' ∉ s.toList) :
    segments ("/".intercalate names) = names := by
  have hslash : "/".toList = ['/'] := rfl
  have hparts : ∀ part ∈ names.map String.toList, '/' ∉ part := by simpa using h
  have hsplit := List.splitOn_intercalate '/' hparts (by simpa using hne)
  rw [segments, pieces, String.toList_intercalate, hslash, hsplit, List.map_map]
  simp [Function.comp_def]

/-! ### Absolute paths -/

/-- The steps of the segments behind the first slash. -/
def stepsOf (rest : List String) : List Step := (rest.filter (!isIdle ·)).map Step.ofSegment

/-- The absolute path with these segments behind the first slash. -/
def rooted (rest : List String) : String := "/" ++ "/".intercalate rest

theorem isAbsolute_iff {path : String} : isAbsolute path = true ↔ ∃ cs, path.toList = '/' :: cs := by
  unfold isAbsolute
  rw [String.startsWith_string_iff]
  constructor
  · rintro ⟨cs, hcs⟩
    exact ⟨cs, hcs.symm⟩
  · rintro ⟨cs, hcs⟩
    exact ⟨cs, hcs.symm⟩

private theorem exists_segments {path : String} (h : isAbsolute path = true) :
    ∃ rest, segments path = "" :: rest ∧ ∀ s ∈ rest, '/' ∉ s.toList := by
  obtain ⟨cs, hcs⟩ := isAbsolute_iff.1 h
  have hsegments : segments path = "" :: (cs.splitOn '/').map String.ofList := by
    rw [segments, pieces, hcs, List.splitOn_cons_eq_if_modifyHead]
    simp
  refine ⟨_, hsegments, fun s hs => ?_⟩
  have hmem : s ∈ pieces '/' path := by
    rw [← segments, hsegments]
    exact List.mem_cons_of_mem _ hs
  exact not_mem_of_mem_pieces hmem

private theorem isAbsolute_rooted (rest : List String) : isAbsolute (rooted rest) = true :=
  isAbsolute_iff.2 ⟨("/".intercalate rest).toList, by simp [rooted]⟩

private theorem steps_of_isAbsolute {path : String} {rest : List String} (h : isAbsolute path = true)
    (hsegments : segments path = "" :: rest) : steps path = .root :: stepsOf rest := by
  simp [steps, hsegments, h, stepsOf]

private theorem steps_rooted {rest : List String} (h : ∀ s ∈ rest, '/' ∉ s.toList) :
    steps (rooted rest) = .root :: stepsOf rest := by
  cases rest with
  | nil => decide +kernel
  | cons first rest =>
    have hjoin : rooted (first :: rest) = "/".intercalate ("" :: first :: rest) := by simp [rooted]
    refine steps_of_isAbsolute (isAbsolute_rooted _) ?_
    rw [hjoin, segments_intercalate (by simp) (by simpa using h)]

private theorem stepsOf_append (front back : List String) :
    stepsOf (front ++ back) = stepsOf front ++ stepsOf back := by
  simp [stepsOf]

private theorem trimEnd_concat (front : List String) (last : String) :
    trimEnd (front ++ [last]) = if isIdle last = true then trimEnd front else front ++ [last] :=
  List.rdropWhile_concat isIdle front last

private theorem stepsOf_trimEnd (rest : List String) : stepsOf (trimEnd rest) = stepsOf rest := by
  induction rest using List.reverseRecOn with
  | nil => rfl
  | append_singleton front last ih =>
    rw [trimEnd_concat]
    split
    · rename_i hidle
      rw [ih, stepsOf_append]
      simp [stepsOf, hidle]
    · rfl

/-- What is left without the idle segments at the end is nothing, or ends in a step. -/
private theorem trimEnd_cases (rest : List String) : trimEnd rest = [] ∨
    ∃ front last, trimEnd rest = front ++ [last] ∧ stepsOf [last] = [Step.ofSegment last] := by
  induction rest using List.reverseRecOn with
  | nil => exact .inl rfl
  | append_singleton front last ih =>
    rw [trimEnd_concat]
    split
    · exact ih
    · rename_i hidle
      exact .inr ⟨front, last, rfl, by simp [stepsOf, hidle]⟩

private theorem trimEnd_subset (rest : List String) : trimEnd rest ⊆ rest := (List.rdropWhile_prefix isIdle rest).subset

/-- An absolute path is the root, which has no parent, or has one step more than its parent. -/
theorem parent?_cases {path : String} (h : isAbsolute path = true) :
    steps path = [.root] ∧ parent? path = none ∨
      ∃ above, parent? path = some above ∧ isAbsolute above = true ∧ steps path ≠ [.root] ∧
        steps above = (steps path).dropLast := by
  obtain ⟨rest, hsegments, hslash⟩ := exists_segments h
  have hsteps : steps path = .root :: stepsOf (trimEnd rest) := by
    rw [steps_of_isAbsolute h hsegments, stepsOf_trimEnd]
  rcases trimEnd_cases rest with hnil | ⟨front, last, htrim, hlast⟩
  · left
    exact ⟨by simp [hsteps, hnil, stepsOf], by simp [parent?, hsegments, h, hnil]⟩
  · right
    refine ⟨rooted (trimEnd front), by simp [parent?, hsegments, h, htrim, rooted], isAbsolute_rooted _, ?_, ?_⟩
    · rw [hsteps, htrim, stepsOf_append, hlast]
      simp
    · have hfront : ∀ s ∈ trimEnd front, '/' ∉ s.toList := by
        intro s hs
        have hmem : s ∈ trimEnd rest := by
          rw [htrim]
          exact List.mem_append_left _ (trimEnd_subset front hs)
        exact hslash s (trimEnd_subset rest hmem)
      rw [steps_rooted hfront, stepsOf_trimEnd, hsteps, htrim, stepsOf_append, hlast, ← List.cons_append,
        List.dropLast_concat]

/-! ### Ancestors -/

/-- The paths lead up from the first one: each has the next one for its parent, and the last has none. -/
inductive LeadsUp : String → List String → Prop
  | top {path : String} : parent? path = none → LeadsUp path [path]
  | up {path above : String} {paths : List String} : parent? path = some above → LeadsUp above paths →
    LeadsUp path (path :: paths)

/-- An absolute path has no more paths above it than steps, so that a climb with a bound of that many arrives. -/
private theorem leadsUp_climb {count : Nat} {path : String} (h : isAbsolute path = true)
    (hcount : (steps path).length ≤ count) :
    LeadsUp path (climb count path) := by
  induction count generalizing path with
  | zero =>
    obtain ⟨rest, hsegments, -⟩ := exists_segments h
    rw [steps_of_isAbsolute h hsegments, List.length_cons] at hcount
    omega
  | succ count ih =>
    rcases parent?_cases h with ⟨-, hparent⟩ | ⟨above, hparent, habove, -, hsteps⟩
    · simpa [climb, hparent] using LeadsUp.top hparent
    · have hlength : (steps above).length ≤ count := by
        rw [hsteps, List.length_dropLast]
        omega
      simpa [climb, hparent] using LeadsUp.up hparent (ih habove hlength)

theorem leadsUp_ancestors {path : String} (h : isAbsolute path = true) : LeadsUp path (ancestors path) := by
  refine leadsUp_climb h ?_
  obtain ⟨rest, hsegments, -⟩ := exists_segments h
  have hlength : (stepsOf rest).length ≤ rest.length := by
    rw [stepsOf, List.length_map]
    exact List.length_filter_le _ _
  rw [steps_of_isAbsolute h hsegments, hsegments, List.length_cons, List.length_cons]
  omega

/-- The paths that lead up from an absolute path have its steps, then all but the last of them, and so on up to the
root. -/
theorem LeadsUp.map_steps {path : String} {paths : List String} (h : LeadsUp path paths)
    (habsolute : isAbsolute path = true) : paths.map steps = (steps path).inits.tail.reverse := by
  induction h with
  | @top path hnone =>
    rcases parent?_cases habsolute with ⟨hsteps, -⟩ | ⟨above, hparent, -⟩
    · simp [hsteps]
    · cases hnone.symm.trans hparent
  | @up path above paths hparent _ ih =>
    rcases parent?_cases habsolute with ⟨-, hnone⟩ | ⟨above', hparent', habove, -, hsteps⟩
    · cases hnone.symm.trans hparent
    · cases hparent.symm.trans hparent'
      obtain ⟨rest, hsegments, -⟩ := exists_segments habsolute
      have hne : steps path ≠ [] := by simp [steps_of_isAbsolute habsolute hsegments]
      have hlast := List.dropLast_append_getLast hne
      have hinits : (steps path).inits = (steps path).dropLast.inits ++ [steps path] := by
        conv_lhs => rw [← hlast, List.inits_append]
        simp [hlast]
      have hsome : (steps path).dropLast.inits ≠ [] := List.ne_nil_of_length_pos (by simp)
      rw [List.map_cons, ih habove, hsteps, hinits, List.tail_append_of_ne_nil hsome, List.reverse_append]
      rfl

end Path

end ScriptTidy
