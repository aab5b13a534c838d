import ScriptTidy.Text.CaseTable

/-!
# Letter case

Full case mapping of single characters: a character may map to several. ASCII letters are handled by themselves,
all other characters by the tables.
-/

namespace ScriptTidy

namespace LetterCase

/-- The code points that a table of expansions and one of runs give for `code`. -/
def lookup (expansions : List (Nat × List Nat)) (runs : List CaseRun) (code : Nat) : List Nat :=
  match expansions.find? (·.1 == code) with
  | some (_, codes) => codes
  | none =>
    match runs.find? (·.holds code) with
    | some run => [((code : Int) + run.shift).toNat]
    | none => [code]

/-- The uppercase form of a character. -/
def upper (c : Char) : List Char :=
  if c.toNat < 0x80 then [c.toUpper]
  else (lookup CaseTable.upperExpansions CaseTable.upperRuns c.toNat).map Char.ofNat

/-- The lowercase form of a character. -/
def lower (c : Char) : List Char :=
  if c.toNat < 0x80 then [c.toLower]
  else (lookup CaseTable.lowerExpansions CaseTable.lowerRuns c.toNat).map Char.ofNat

/-- The character has the uppercase property. -/
def isUppercase (c : Char) : Bool :=
  if c.toNat < 0x80 then c.isUpper else CaseTable.uppercaseRuns.any (·.holds c.toNat)

/-- The text with every character in its lowercase form. -/
def lowercase (s : String) : String := String.ofList (s.toList.flatMap lower)

end LetterCase

end ScriptTidy
