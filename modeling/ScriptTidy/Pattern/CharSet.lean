import ScriptTidy.Text.CharTable
import ScriptTidy.Text.ScriptTable

/-!
# Sets of characters

The sets that a pattern can name, as expressions over ranges and tables, and the named classes among them.
-/

namespace ScriptTidy

/-- A set of code points. -/
inductive CharSet where
  | nothing
  | range (first last : Nat)
  | table (runs : List CodeRun)
  | union (s t : CharSet)
  | inter (s t : CharSet)
  | diff (s t : CharSet)
  | symDiff (s t : CharSet)
  | compl (s : CharSet)
  /-- Everything that differs from a member in case only; without `unicode`, in the case of ASCII letters. -/
  | folded (unicode : Bool) (s : CharSet)

namespace CharSet

/-- The code point that stands for `code` when case does not count. -/
def foldCode (code : Nat) : Nat :=
  match CharTable.foldRuns.find? (·.1.holds code) with
  | some (_, shift) => ((code : Int) + shift).toNat
  | none => code

/-- The code points that differ from `code` in case only, `code` among them. -/
def caseMates (code : Nat) : List Nat :=
  let target := foldCode code
  code :: target :: CharTable.foldRuns.filterMap fun (run, shift) =>
    let source := ((target : Int) - shift).toNat
    if run.holds source then some source else none

/-- The code points that differ from `code` in the case of an ASCII letter only. -/
def asciiCaseMates (code : Nat) : List Nat :=
  if 0x41 ≤ code && code ≤ 0x5A then [code, code + 0x20]
  else if 0x61 ≤ code && code ≤ 0x7A then [code, code - 0x20]
  else [code]

/-- The code point is in the set. -/
def holds : CharSet → Nat → Bool
  | nothing, _ => false
  | range first last, code => first ≤ code && code ≤ last
  | table runs, code => runs.any (·.holds code)
  | union s t, code => s.holds code || t.holds code
  | inter s t, code => s.holds code && t.holds code
  | diff s t, code => s.holds code && !t.holds code
  | symDiff s t, code => s.holds code != t.holds code
  | compl s, code => !s.holds code
  | folded true s, code => (caseMates code).any s.holds
  | folded false s, code => (asciiCaseMates code).any s.holds

/-- The set of one character. -/
def single (c : Char) : CharSet := range c.toNat c.toNat

def any : CharSet := compl nothing

def unions (sets : List CharSet) : CharSet := sets.foldl union nothing

/-- The set, or what is left without it. -/
def negateIf (negated : Bool) (s : CharSet) : CharSet := if negated then compl s else s

/-- The general categories whose short names are given. -/
def categories (names : List String) : CharSet :=
  unions (CharTable.categories.filterMap fun (name, runs) => if names.contains name then some (table runs) else none)

/-- The short names of the general categories that start with a letter. -/
def categoriesUnder (initial : String) : List String :=
  (CharTable.categories.map (·.1)).filter (·.startsWith initial)

def unassigned : CharSet := compl (categories (CharTable.categories.map (·.1)))

def alphabetic : CharSet :=
  union (categories (categoriesUnder "l" ++ ["nl"])) (table CharTable.otherAlphabetic)

def decimalDigit : CharSet := categories ["nd"]

def whiteSpace : CharSet := table CharTable.whiteSpace

/-- Letters, marks, digits, connectors and the characters that control joining. -/
def wordCharacter : CharSet :=
  unions [alphabetic, categories (categoriesUnder "m" ++ ["nd", "pc"]), table CharTable.joinControl]

def lowercase : CharSet := union (categories ["ll"]) (table CharTable.otherLowercase)

def uppercase : CharSet := union (categories ["lu"]) (table CharTable.otherUppercase)

def asciiDigit : CharSet := range 0x30 0x39

def asciiSpace : CharSet := unions [range 0x09 0x0D, range 0x20 0x20]

def asciiLower : CharSet := range 0x61 0x7A

def asciiUpper : CharSet := range 0x41 0x5A

def asciiAlpha : CharSet := union asciiLower asciiUpper

def asciiWord : CharSet := unions [asciiAlpha, asciiDigit, range 0x5F 0x5F]

/-- The classes of ASCII characters that are written between colons. -/
def asciiClass? : String → Option CharSet
  | "alnum" => some (union asciiAlpha asciiDigit)
  | "alpha" => some asciiAlpha
  | "ascii" => some (range 0 0x7F)
  | "blank" => some (union (range 0x09 0x09) (range 0x20 0x20))
  | "cntrl" => some (union (range 0 0x1F) (range 0x7F 0x7F))
  | "digit" => some asciiDigit
  | "graph" => some (range 0x21 0x7E)
  | "lower" => some asciiLower
  | "print" => some (range 0x20 0x7E)
  | "punct" => some (unions [range 0x21 0x2F, range 0x3A 0x40, range 0x5B 0x60, range 0x7B 0x7E])
  | "space" => some asciiSpace
  | "upper" => some asciiUpper
  | "word" => some asciiWord
  | "xdigit" => some (unions [asciiDigit, range 0x41 0x46, range 0x61 0x66])
  | _ => none

/-- The long names of the general categories, with the short names of what belongs to them. -/
def categoryNames : List (List String × List String) :=
  [(["control", "cntrl"], ["cc"]), (["format"], ["cf"]), (["privateuse"], ["co"]), (["surrogate"], ["cs"]),
   (["l", "letter"], categoriesUnder "l"), (["lc", "casedletter"], ["lu", "ll", "lt"]),
   (["lowercaseletter"], ["ll"]), (["modifierletter"], ["lm"]), (["otherletter"], ["lo"]),
   (["titlecaseletter"], ["lt"]), (["uppercaseletter"], ["lu"]),
   (["m", "mark", "combiningmark"], categoriesUnder "m"), (["spacingmark"], ["mc"]), (["enclosingmark"], ["me"]),
   (["nonspacingmark"], ["mn"]), (["n", "number"], categoriesUnder "n"), (["decimalnumber", "digit"], ["nd"]),
   (["letternumber"], ["nl"]), (["othernumber"], ["no"]), (["p", "punctuation", "punct"], categoriesUnder "p"),
   (["connectorpunctuation"], ["pc"]), (["dashpunctuation"], ["pd"]), (["closepunctuation"], ["pe"]),
   (["finalpunctuation"], ["pf"]), (["initialpunctuation"], ["pi"]), (["otherpunctuation"], ["po"]),
   (["openpunctuation"], ["ps"]), (["s", "symbol"], categoriesUnder "s"), (["currencysymbol"], ["sc"]),
   (["modifiersymbol"], ["sk"]), (["mathsymbol"], ["sm"]), (["othersymbol"], ["so"]),
   (["z", "separator"], categoriesUnder "z"), (["lineseparator"], ["zl"]), (["paragraphseparator"], ["zp"]),
   (["spaceseparator"], ["zs"])]

/-- A general category by one of its names, which are in small letters. -/
def category? (name : String) : Option CharSet :=
  match name with
  | "any" => some any
  | "assigned" => some (compl unassigned)
  | "ascii" => some (range 0 0x7F)
  | "cn" | "unassigned" => some unassigned
  | "c" | "other" => some (union (categories (categoriesUnder "c")) unassigned)
  | _ =>
    if (CharTable.categories.map (·.1)).contains name then some (categories [name])
    else (categoryNames.find? (·.1.contains name)).map fun found => categories found.2

/-- A property that a character has or has not, by one of its names. -/
def property? : String → Option CharSet
  | "alphabetic" | "alpha" => some alphabetic
  | "lowercase" | "lower" => some lowercase
  | "uppercase" | "upper" => some uppercase
  | "cased" => some (unions [lowercase, uppercase, categories ["lt"]])
  | "whitespace" | "wspace" | "space" => some whiteSpace
  | "joincontrol" | "joinc" => some (table CharTable.joinControl)
  | "dash" => some (table CharTable.dash)
  | "hexdigit" | "hex" => some (table CharTable.hexDigit)
  | "asciihexdigit" | "ahex" => some (unions [asciiDigit, range 0x41 0x46, range 0x61 0x66])
  | "ideographic" | "ideo" => some (table CharTable.ideographic)
  | "emoji" => some (table CharTable.emoji)
  | "math" => some (table CharTable.math)
  | _ => none

def script? (name : String) : Option CharSet := (ScriptTable.scripts.lookup name).map table

/-- A name without what does not count in it: blanks, dashes, underscores, case, and `is` at the front. -/
def looseName (name : String) : String :=
  let lower (cs : List Char) := (cs.filter fun c => c.toNat < 0x80 && !"_- ".contains c).map Char.toLower
  match name.toList with
  | i :: s :: rest => if i.toLower = 'i' ∧ s.toLower = 's' then String.ofList (lower rest)
    else String.ofList (lower (i :: s :: rest))
  | short => String.ofList (lower short)

/-- A class of characters by its name alone. -/
def named? (name : String) : Option CharSet :=
  let name := looseName name
  (property? name).or ((category? name).or (script? name))

/-- A class of characters by the name of a property and the name of its value. -/
def valued? (property value : String) : Option CharSet :=
  match looseName property with
  | "gc" | "generalcategory" => category? (looseName value)
  | "sc" | "script" | "scx" | "scriptextensions" => script? (looseName value)
  | _ => none

end CharSet

end ScriptTidy
