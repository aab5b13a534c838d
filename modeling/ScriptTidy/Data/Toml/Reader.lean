import ScriptTidy.Data.Toml.Basic
import ScriptTidy.Data.Toml.Scalar

/-!
# Reading TOML

A document is read line by line. A reader of a thing takes the characters from which it starts and gives the thing
with the characters behind it, or nothing if the thing is not there.
-/

namespace ScriptTidy

namespace Toml

/-- The quote of texts without escapes. -/
def apostrophe : Char := Char.ofNat 39

/-- A blank within a line. -/
def isBlank (c : Char) : Bool := c = ' ' || c = '\t'

/-- The character may stand in a comment or between quotes. -/
def isPrintable (c : Char) : Bool := c = '\t' || (32 ≤ c.toNat && c.toNat ≠ 127)

/-- Skip the blanks of a line. -/
def skipBlanks (cs : List Char) : List Char := cs.dropWhile isBlank

/-- Read the end of a line. -/
def newline? : List Char → Option (List Char)
  | '\n' :: rest => some rest
  | '\r' :: '\n' :: rest => some rest
  | _ => none

/-- Skip blanks and then a comment, if there is one. The line has to end there. -/
def lineEnd? (cs : List Char) : Option (List Char) :=
  let rest := match skipBlanks cs with
    | '#' :: rest => rest.dropWhile isPrintable
    | rest => rest
  match rest with
  | [] => some []
  | rest => newline? rest

/-- Skip blanks, comments and ends of lines. The `fuel` bounds the number of lines. -/
def skipLines : Nat → List Char → List Char
  | 0, cs => cs
  | fuel + 1, cs =>
    match skipBlanks cs with
    | [] => []
    | rest =>
      match lineEnd? rest with
      | some rest => skipLines fuel rest
      | none => rest

/-! ### Quoted texts -/

/-- The character that stands behind a backslash for another one. -/
def unescape? : Char → Option Char
  | '"' => some '"'
  | '\\' => some '\\'
  | 'b' => some (Char.ofNat 8)
  | 'e' => some (Char.ofNat 27)
  | 'f' => some (Char.ofNat 12)
  | 'n' => some '\n'
  | 'r' => some '\r'
  | 't' => some '\t'
  | _ => none

/-- How many digits follow a letter that gives a character by its number. -/
def codeLength? : Char → Option Nat
  | 'x' => some 2
  | 'u' => some 4
  | 'U' => some 8
  | _ => none

/-- The character with a number, if there is one. -/
def charOfCode? (n : Nat) : Option Char := if n.isValidChar then some (Char.ofNat n) else none

/-- Read what follows a backslash. -/
def escaped? : List Char → Option (Char × List Char)
  | [] => none
  | c :: rest =>
    match codeLength? c with
    | some count => do
      let ds := rest.take count
      if ds.length ≠ count then none
      else
        let c ← Decimal.value? 16 ds >>= charOfCode?
        return (c, rest.drop count)
    | none => (unescape? c).map (·, rest)

/-- Read the rest of a text between double quotes. -/
def basic? : Nat → List Char → Option (List Char × List Char)
  | 0, _ => none
  | _, [] => none
  | fuel + 1, c :: rest =>
    if c = '"' then some ([], rest)
    else if c = '\\' then do
      let (c, rest) ← escaped? rest
      let (cs, rest) ← basic? fuel rest
      return (c :: cs, rest)
    else if isPrintable c then do
      let (cs, rest) ← basic? fuel rest
      return (c :: cs, rest)
    else none

/-- Read the rest of a text between apostrophes. -/
def literal? (cs : List Char) : Option (List Char × List Char) :=
  let inner := cs.takeWhile fun c => isPrintable c && c ≠ apostrophe
  match cs.dropWhile fun c => isPrintable c && c ≠ apostrophe with
  | c :: rest => if c = apostrophe then some (inner, rest) else none
  | [] => none

/-- The quotes at the end of a text over several lines: three close it, and up to two before them belong to it. -/
def closing? (quote : Char) (cs : List Char) : Option (List Char × List Char) :=
  let count := (cs.takeWhile (· = quote)).length
  if 3 ≤ count then
    let extra := min (count - 3) 2
    some (List.replicate extra quote, cs.drop (extra + 3))
  else none

/-- Skip the blanks and the ends of lines behind a backslash at the end of a line. -/
def skipGap (cs : List Char) : List Char := cs.dropWhile fun c => isBlank c || c = '\n' || c = '\r'

/-- Read the rest of a text between three quotes. Backslashes have a meaning if `escapes`. -/
def block? (quote : Char) (escapes : Bool) : Nat → List Char → Option (List Char × List Char)
  | 0, _ => none
  | _, [] => none
  | fuel + 1, c :: rest =>
    match closing? quote (c :: rest) with
    | some r => some r
    | none =>
      if c = '\\' && escapes then
        match newline? (skipBlanks rest) with
        | some rest => block? quote escapes fuel (skipGap rest)
        | none => do
          let (c, rest) ← escaped? rest
          let (cs, rest) ← block? quote escapes fuel rest
          return (c :: cs, rest)
      else
        match newline? (c :: rest) with
        | some rest => do
          let (cs, rest) ← block? quote escapes fuel rest
          return ('\n' :: cs, rest)
        | none =>
          if isPrintable c then do
            let (cs, rest) ← block? quote escapes fuel rest
            return (c :: cs, rest)
          else none

/-- Read a text over several lines. The end of a line right behind the opening quotes does not count. -/
def blockText? (quote : Char) (escapes : Bool) (cs : List Char) : Option (String × List Char) :=
  let body := (newline? cs).getD cs
  (block? quote escapes (body.length + 1) body).map fun (cs, rest) => (String.ofList cs, rest)

/-- Read a text on one line whose opening quote is given. -/
def lineText? (quote : Char) (cs : List Char) : Option (String × List Char) :=
  (if quote = apostrophe then literal? cs else basic? (cs.length + 1) cs).map fun (cs, rest) =>
    (String.ofList cs, rest)

/-- The character opens a quoted text. -/
def isQuote (c : Char) : Bool := c = '"' || c = apostrophe

/-- Read a quoted text of any kind whose opening quote is given. -/
def text? (quote : Char) (cs : List Char) : Option (String × List Char) :=
  match cs with
  | a :: b :: rest =>
    if a = quote && b = quote then blockText? quote (quote = '"') rest else lineText? quote cs
  | _ => lineText? quote cs

/-! ### Keys -/

/-- The character may stand in a key without quotes. -/
def isBare (c : Char) : Bool := c.isAlphanum || c = '_' || c = '-'

/-- Read one part of a key. -/
def keyPart? (cs : List Char) : Option (String × List Char) :=
  match cs with
  | [] => none
  | c :: rest =>
    if isQuote c then lineText? c rest
    else
      let name := cs.takeWhile isBare
      if name.isEmpty then none else some (String.ofList name, cs.dropWhile isBare)

/-- Read a key, which may have dots: the parts before the last one, and the last one. -/
def key? : Nat → List Char → Option ((List String × String) × List Char)
  | 0, _ => none
  | fuel + 1, cs => do
    let (part, rest) ← keyPart? (skipBlanks cs)
    match skipBlanks rest with
    | '.' :: rest =>
      let ((parts, last), rest) ← key? fuel rest
      return ((part :: parts, last), rest)
    | rest => return (([], part), rest)

/-! ### Values -/

/-- How deep arrays and tables between braces may be nested. -/
def maxDepth : Nat := 80

/-- The character belongs to a number, a date or a word. -/
def isRunChar (c : Char) : Bool := c.isAlphanum || c = '_' || c = '-' || c = '+' || c = '.' || c = ':'

/-- Read a number, a date or a truth value. The date and the time of a moment may be divided by a blank. -/
def run? (cs : List Char) : Option (Toml × List Char) :=
  let run := cs.takeWhile isRunChar
  let rest := cs.dropWhile isRunChar
  if run = ['t', 'r', 'u', 'e'] then some (.bool true, rest)
  else if run = ['f', 'a', 'l', 's', 'e'] then some (.bool false, rest)
  else
    match date? run, rest with
    | some [], ' ' :: c :: more =>
      if c.isDigit then
        let clock := (c :: more).takeWhile isRunChar
        if isMoment (run ++ ' ' :: clock) then some (.other, (c :: more).dropWhile isRunChar) else none
      else some (.other, rest)
    | _, _ => if isScalar run then some (.other, rest) else none

mutual

/-- Read a value inside `depth` arrays and tables. -/
def value? : Nat → Nat → List Char → Option (Toml × List Char)
  | 0, _, _ => none
  | fuel + 1, depth, cs =>
    match cs with
    | [] => none
    | c :: rest =>
      if isQuote c then (text? c rest).map fun (s, rest) => (.text s, rest)
      else if c = '[' then
        if depth < maxDepth then
          (items? fuel (depth + 1) (skipLines rest.length rest)).map fun (items, rest) => (.array items, rest)
        else none
      else if c = '\x7b' then
        if depth < maxDepth then
          (fields? fuel (depth + 1) ⟨.closed, []⟩ (skipLines rest.length rest)).map fun (t, rest) => (t.toToml, rest)
        else none
      else run? cs

/-- Read the items of an array up to its closing bracket. A comma may follow the last one. -/
def items? : Nat → Nat → List Char → Option (List Toml × List Char)
  | 0, _, _ => none
  | _, _, ']' :: rest => some ([], rest)
  | fuel + 1, depth, cs => do
    let (item, rest) ← value? fuel depth cs
    match skipLines rest.length rest with
    | ',' :: rest =>
      let (items, rest) ← items? fuel depth (skipLines rest.length rest)
      return (item :: items, rest)
    | ']' :: rest => return ([item], rest)
    | _ => none

/-- Read the fields of a table up to its closing brace. A comma may follow the last one. -/
def fields? : Nat → Nat → Table → List Char → Option (Table × List Char)
  | 0, _, _, _ => none
  | fuel + 1, depth, t, cs =>
    match cs with
    | '\x7d' :: rest => some (t, rest)
    | cs => do
      let ((keys, key), rest) ← key? (cs.length + 1) cs
      let '=' :: rest := rest | none
      let (value, rest) ← value? fuel depth (skipBlanks rest)
      let t ← t.assign keys key value
      match skipLines rest.length rest with
      | ',' :: rest => fields? fuel depth t (skipLines rest.length rest)
      | '\x7d' :: rest => return (t, rest)
      | _ => none

end

/-! ### Documents -/

/-- Read a header behind its opening brackets. -/
def header? (doubled : Bool) (d : Draft) (cs : List Char) : Option (Draft × List Char) := do
  let ((keys, key), rest) ← key? (cs.length + 1) cs
  let rest ← match doubled, rest with
    | false, ']' :: rest => some rest
    | true, ']' :: ']' :: rest => some rest
    | _, _ => none
  return (← d.header keys key doubled, rest)

/-- Read a key with its value. -/
def assignment? (d : Draft) (cs : List Char) : Option (Draft × List Char) := do
  let ((keys, key), rest) ← key? (cs.length + 1) cs
  let '=' :: rest := rest | none
  let (value, rest) ← value? (2 * rest.length + 2) 0 (skipBlanks rest)
  return (← d.assign keys key value, rest)

/-- Read what stands on a line that is not blank. -/
def line? (d : Draft) : List Char → Option (Draft × List Char)
  | '[' :: '[' :: rest => header? true d rest
  | '[' :: rest => header? false d rest
  | cs => assignment? d cs

/-- Read the lines of a document. The `fuel` bounds their number. -/
def lines? : Nat → Draft → List Char → Option Draft
  | 0, _, _ => none
  | fuel + 1, d, cs =>
    match skipLines cs.length cs with
    | [] => some d
    | cs => do
      let (d, rest) ← line? d cs
      let rest ← lineEnd? rest
      lines? fuel d rest

/-- Skip a byte order mark. -/
def skipMark : List Char → List Char
  | c :: rest => if c.toNat = 0xFEFF then rest else c :: rest
  | [] => []

/-- The fields of the document that a text stands for. -/
def ofText? (s : String) : Option (List (String × Toml)) :=
  let cs := skipMark s.toList
  (lines? (cs.length + 1) .empty cs).map (·.root.fields)

end Toml

end ScriptTidy
