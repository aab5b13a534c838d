import Mathlib.Tactic.Simproc.ExistsAndEq
import ScriptTidy.Names.CamelCase

/-!
# Names that have a camel-case form

Folding uses up the character behind a separator, so that a name with two separators in a row, or one at its end, keeps
a separator and comes to no camel-case form. The names of ASCII characters that do come to one are a row of *pieces*,
each a letter or digit with at most one separator in front of it, the first of them a letter
(`camel_form_of_pieces`). On such a row the camel-case form can be read off piece by piece.
-/

namespace ScriptTidy

namespace LetterCase

variable {c : Char}

private theorem upper_of_ascii (h : c.toNat < 0x80) : upper c = [c.toUpper] := by simp [upper, h]

private theorem lower_of_ascii (h : c.toNat < 0x80) : lower c = [c.toLower] := by simp [lower, h]

private theorem isUppercase_of_ascii (h : c.toNat < 0x80) : isUppercase c = c.isUpper := by simp [isUppercase, h]

end LetterCase

namespace CamelCase

variable {c : Char} {cs : List Char}

/-- All characters belong to ASCII. -/
def IsAscii (cs : List Char) : Prop := ∀ c ∈ cs, c.toNat < 0x80

/-! ### Letters and digits -/

private theorem toNat_lt_of_isAlphanum (h : c.isAlphanum = true) : c.toNat < 0x80 := by
  delta Char.isAlphanum Char.isAlpha Char.isUpper Char.isLower Char.isDigit at h
  simp only [UInt32.le_iff_toNat_le, Bool.or_eq_true, Bool.and_eq_true, decide_eq_true_eq, Char.toNat_val,
    ge_iff_le] at h
  have hZ : 'Z'.toNat = 90 := rfl
  have hz : 'z'.toNat = 122 := rfl
  have h9 : '9'.toNat = 57 := rfl
  omega

private theorem isSeparator_of_isAlphanum (h : c.isAlphanum = true) : isSeparator c = false := by
  simp only [isSeparator, Bool.or_eq_false_iff, decide_eq_false_iff_not]
  constructor
  · rintro rfl
    cases h
  · rintro rfl
    cases h

/-- What holds of each of the 128 characters of ASCII holds of every one. -/
private theorem of_ascii {p : Char → Prop} (hall : ∀ n < 0x80, p (Char.ofNat n)) (h : c.toNat < 0x80) : p c :=
  Char.ofNat_toNat c ▸ hall c.toNat h

private theorem isAlpha_toUpper (h : c.toNat < 0x80) : c.toUpper.isAlpha = c.isAlpha :=
  of_ascii (p := fun c => c.toUpper.isAlpha = c.isAlpha) (by decide +kernel) h

private theorem isAlphanum_toUpper (h : c.toNat < 0x80) : c.toUpper.isAlphanum = c.isAlphanum :=
  of_ascii (p := fun c => c.toUpper.isAlphanum = c.isAlphanum) (by decide +kernel) h

private theorem toNat_toUpper_lt (h : c.toNat < 0x80) : c.toUpper.toNat < 0x80 :=
  of_ascii (p := fun c => c.toUpper.toNat < 0x80) (by decide +kernel) h

private theorem toLower_toUpper (h : c.toNat < 0x80) : c.toUpper.toLower = c.toLower :=
  of_ascii (p := fun c => c.toUpper.toLower = c.toLower) (by decide +kernel) h

private theorem toLower_of_not_isUpper (h : c.toNat < 0x80) : c.isUpper = false → c.toLower = c :=
  of_ascii (p := fun c => c.isUpper = false → c.toLower = c) (by decide +kernel) h

private theorem not_isUpper_of_isLower (h : c.toNat < 0x80) : c.isLower = true → c.isUpper = false :=
  of_ascii (p := fun c => c.isLower = true → c.isUpper = false) (by decide +kernel) h

private theorem isLower_toLower (h : c.toNat < 0x80) : c.toLower.isLower = c.isAlpha :=
  of_ascii (p := fun c => c.toLower.isLower = c.isAlpha) (by decide +kernel) h

/-! ### Pieces of a name -/

/-- A letter or digit of a name, with at most one separator in front of it. -/
structure Piece where
  separator : Option Char
  char : Char
  separates : ∀ s ∈ separator, isSeparator s = true
  isAlphanum : char.isAlphanum = true

namespace Piece

/-- The piece as it stands in a name. -/
def chars (p : Piece) : List Char := p.separator.toList ++ [p.char]

/-- The piece as it stands in the camel-case form of the name: without its separator, and in upper case if it had
one. -/
def folded (p : Piece) : Char := if p.separator.isSome then p.char.toUpper else p.char

private theorem toNat_char_lt (p : Piece) : p.char.toNat < 0x80 := toNat_lt_of_isAlphanum p.isAlphanum

private theorem isAlphanum_folded (p : Piece) : p.folded.isAlphanum = true := by
  unfold folded
  split
  · rw [isAlphanum_toUpper p.toNat_char_lt, p.isAlphanum]
  · exact p.isAlphanum

@[simp] theorem isAlpha_folded (p : Piece) : p.folded.isAlpha = p.char.isAlpha := by
  unfold folded
  split
  · exact isAlpha_toUpper p.toNat_char_lt
  · rfl

@[simp] theorem toLower_folded (p : Piece) : p.folded.toLower = p.char.toLower := by
  unfold folded
  split
  · exact toLower_toUpper p.toNat_char_lt
  · rfl

end Piece

/-! ### Folding piece by piece -/

private theorem fold_cons (h : isSeparator c = false) (cs : List Char) : fold (c :: cs) = c :: fold cs := by
  cases cs <;> simp [fold, h]

private theorem fold_of_no_separator (h : ∀ c ∈ cs, isSeparator c = false) : fold cs = cs := by
  induction cs with
  | nil => rfl
  | cons c cs ih =>
    rw [fold_cons (h c (by simp)), ih fun d hd => h d (by simp [hd])]

private theorem fold_chars (p : Piece) (cs : List Char) : fold (p.chars ++ cs) = p.folded :: fold cs := by
  obtain ⟨separator, d, hseparates, hd⟩ := p
  cases separator with
  | none => exact fold_cons (isSeparator_of_isAlphanum hd) cs
  | some s =>
    have hbreak : d ≠ '\n' := by
      rintro rfl
      cases hd
    have hfold : fold (s :: d :: cs) = LetterCase.upper d ++ fold cs := by
      simp [fold, hseparates s rfl, hbreak]
    rw [LetterCase.upper_of_ascii (toNat_lt_of_isAlphanum hd)] at hfold
    exact hfold

private theorem fold_pieces (ps : List Piece) : fold (ps.flatMap Piece.chars) = ps.map Piece.folded := by
  induction ps with
  | nil => rfl
  | cons p ps ih => rw [List.flatMap_cons, fold_chars, ih, List.map_cons]

/-- Only a row of pieces folds into letters and digits. -/
private theorem exists_pieces (hascii : IsAscii cs) (h : ∀ c ∈ fold cs, c.isAlphanum = true) :
    ∃ ps : List Piece, cs = ps.flatMap Piece.chars := by
  induction cs using fold.induct with
  | case1 => exact ⟨[], rfl⟩
  | case2 c => exact ⟨[⟨none, c, nofun, h c (by simp [fold])⟩], rfl⟩
  | case3 c d cs hsep ih =>
    -- a separator goes into the character behind it
    have hd : d.toNat < 0x80 := hascii d (by simp)
    rw [fold, if_pos hsep, LetterCase.upper_of_ascii hd] at h
    have halnum : d.isAlphanum = true := by
      rw [← isAlphanum_toUpper hd]
      exact h _ (by simp)
    obtain ⟨ps, rfl⟩ := ih (fun x hx => hascii x (by simp [hx])) fun x hx => h x (by simp [hx])
    have hc : isSeparator c = true := (Bool.and_eq_true _ _ ▸ hsep).1
    exact ⟨⟨some c, d, by rintro s ⟨⟩; exact hc, halnum⟩ :: ps, rfl⟩
  | case4 c d cs hsep ih =>
    rw [fold, if_neg hsep] at h
    have hc : c.isAlphanum = true := h c (by simp)
    obtain ⟨ps, hps⟩ := ih (fun x hx => hascii x (by simp_all)) fun x hx => h x (by simp [hx])
    exact ⟨⟨none, c, nofun, hc⟩ :: ps, congrArg (c :: ·) hps⟩

private theorem isAscii_fold (hascii : IsAscii cs) : IsAscii (fold cs) := by
  induction cs using fold.induct with
  | case1 => exact hascii
  | case2 c => exact hascii
  | case3 c d cs hsep ih =>
    have hd : d.toNat < 0x80 := hascii d (by simp)
    rw [fold, if_pos hsep, LetterCase.upper_of_ascii hd]
    intro x hx
    rcases List.mem_cons.mp hx with rfl | hx
    · exact toNat_toUpper_lt hd
    · exact ih (fun y hy => hascii y (by simp [hy])) x hx
  | case4 c d cs hsep ih =>
    rw [fold, if_neg hsep]
    intro x hx
    rcases List.mem_cons.mp hx with rfl | hx
    · exact hascii x (by simp)
    · exact ih (fun y hy => hascii y (List.mem_cons_of_mem c hy)) x hx

/-! ### The first character -/

private theorem lowerFirst_cons (h : c.toNat < 0x80) (cs : List Char) : lowerFirst (c :: cs) = c.toLower :: cs := by
  rw [lowerFirst, LetterCase.isUppercase_of_ascii h, LetterCase.lower_of_ascii h]
  split
  case isTrue => rfl
  case isFalse hupper => rw [toLower_of_not_isUpper h (Bool.eq_false_iff.2 hupper)]

private theorem isCamel_ofList (cs : List Char) :
    isCamel (String.ofList cs) = true ↔
      ∃ c ds, cs = c :: ds ∧ c.isLower = true ∧ ∀ d ∈ ds, d.isAlphanum = true := by
  cases cs with
  | nil => simp [isCamel]
  | cons c ds => simp [isCamel]

/-- A name is in camel case after its first character is put in lower case if it was a letter followed by letters and
digits before. -/
private theorem isCamel_lowerFirst (hascii : IsAscii cs) :
    isCamel (String.ofList (lowerFirst cs)) = true ↔
      ∃ c ds, cs = c :: ds ∧ c.isAlpha = true ∧ ∀ d ∈ ds, d.isAlphanum = true := by
  rw [isCamel_ofList]
  cases cs with
  | nil => simp [lowerFirst]
  | cons c ds =>
    have hc : c.toNat < 0x80 := hascii c (by simp)
    rw [lowerFirst_cons hc]
    simp [isLower_toLower hc]

/-! ### The names that have a camel-case form -/

private theorem isCamel_ofName (name : String) (hascii : IsAscii name.toList) :
    isCamel (ofName name) = true ↔
      ∃ (first : Piece) (rest : List Piece),
        name.toList = (first :: rest).flatMap Piece.chars ∧ first.char.isAlpha = true := by
  rw [ofName, isCamel_lowerFirst (isAscii_fold hascii)]
  constructor
  · rintro ⟨c, ds, hfold, hc, hds⟩
    have halnum : ∀ d ∈ fold name.toList, d.isAlphanum = true := by
      rw [hfold]
      rintro d (_ | ⟨_, hd⟩)
      · simp [Char.isAlphanum, hc]
      · exact hds d hd
    obtain ⟨ps, hps⟩ := exists_pieces hascii halnum
    rw [hps, fold_pieces] at hfold
    cases ps with
    | nil => cases hfold
    | cons first rest =>
      obtain ⟨rfl, rfl⟩ := List.cons.inj hfold
      exact ⟨first, rest, hps, by simpa using hc⟩
  · rintro ⟨first, rest, hname, hfirst⟩
    refine ⟨first.folded, rest.map Piece.folded, by rw [hname, fold_pieces]; rfl, by simpa using hfirst, ?_⟩
    intro d hd
    obtain ⟨p, -, rfl⟩ := List.mem_map.mp hd
    exact p.isAlphanum_folded

private theorem ofName_pieces (name : String) (first : Piece) (rest : List Piece)
    (hname : name.toList = (first :: rest).flatMap Piece.chars) :
    (ofName name).toList = first.char.toLower :: rest.map Piece.folded := by
  have hfold : fold name.toList = first.folded :: rest.map Piece.folded := by
    rw [hname, fold_pieces]
    rfl
  have hfirst : first.folded.toNat < 0x80 := toNat_lt_of_isAlphanum first.isAlphanum_folded
  rw [ofName, hfold, lowerFirst_cons hfirst, String.toList_ofList, Piece.toLower_folded]

private theorem ofName_of_isCamel (name : String) (h : isCamel name = true) : ofName name = name := by
  rw [← String.ofList_toList (s := name), isCamel_ofList] at h
  obtain ⟨c, ds, hname, hc, hds⟩ := h
  have halpha : c.isAlpha = true := Bool.or_eq_true_iff.2 (.inr hc)
  have halnum : c.isAlphanum = true := Bool.or_eq_true_iff.2 (.inl halpha)
  have hfold : fold name.toList = c :: ds := by
    rw [hname, fold_cons (isSeparator_of_isAlphanum halnum),
      fold_of_no_separator fun d hd => isSeparator_of_isAlphanum (hds d hd)]
  have hascii : c.toNat < 0x80 := toNat_lt_of_isAlphanum halnum
  have hupper : c.isUpper = false := not_isUpper_of_isLower hascii hc
  rw [ofName, hfold, lowerFirst_cons hascii, toLower_of_not_isUpper hascii hupper, ← hname, String.ofList_toList]

/-- **Camel-case forms.** The form of a name of ASCII characters is in camel case exactly if the name is a row of
pieces, each a letter or digit with at most one separator in front of it, and the first of them holds a letter. The
form of such a row is the row without its separators, with every character behind one in upper case and the first
character in lower case. What is in camel case already is its own form. -/
theorem camel_form_of_pieces :
    (∀ name : String, IsAscii name.toList →
      (isCamel (ofName name) = true ↔
        ∃ (first : Piece) (rest : List Piece),
          name.toList = (first :: rest).flatMap Piece.chars ∧ first.char.isAlpha = true) ∧
      ∀ (first : Piece) (rest : List Piece),
        name.toList = (first :: rest).flatMap Piece.chars →
          (ofName name).toList = first.char.toLower :: rest.map Piece.folded) ∧
    ∀ name : String, isCamel name = true → ofName name = name :=
  ⟨fun name hascii => ⟨isCamel_ofName name hascii, ofName_pieces name⟩, ofName_of_isCamel⟩

/-- A separator in front of a small letter, of a capital and of a digit. -/
theorem camel_form_of_pieces_mixed :
    IsAscii "_my-X_2".toList ∧ isCamel (ofName "_my-X_2") = true ∧ ofName "_my-X_2" = "myX2" := by
  have hascii : IsAscii "_my-X_2".toList := by simp [IsAscii]
  let first : Piece := ⟨some '_', 'm', by simp [isSeparator], rfl⟩
  let rest : List Piece :=
    [⟨none, 'y', nofun, rfl⟩, ⟨some '-', 'X', by simp [isSeparator], rfl⟩, ⟨some '_', '2', by simp [isSeparator], rfl⟩]
  have hname : "_my-X_2".toList = (first :: rest).flatMap Piece.chars := rfl
  obtain ⟨hcamel, hform⟩ := camel_form_of_pieces.1 "_my-X_2" hascii
  refine ⟨hascii, hcamel.mpr ⟨first, rest, hname, rfl⟩, ?_⟩
  rw [← String.ofList_toList (s := ofName "_my-X_2"), hform first rest hname]
  rfl

end CamelCase

end ScriptTidy
