import ScriptTidy.Text.Span

/-!
# Errors in patterns

Why a text is no pattern, and how that is shown: the text with the characters to blame underlined, and a sentence
behind it. Spans count characters here.
-/

namespace ScriptTidy

/-- What is wrong with a pattern. -/
inductive PatternFault where
  | classUnclosed | classEscapeInvalid | classRangeInvalid | classRangeLiteral
  | escapeUnexpectedEnd | escapeUnrecognized | escapeHexEmpty | escapeHexInvalid | escapeHexInvalidDigit
  | flagDanglingNegation | flagDuplicate | flagRepeatedNegation | flagUnexpectedEnd | flagUnrecognized
  | groupNameDuplicate | groupNameEmpty | groupNameInvalid | groupNameUnexpectedEnd
  | groupUnclosed | groupUnopened
  | countInvalid | countEmpty | countUnclosed | countRangeInvalid | repetitionMissing
  | wordBoundaryUnclosed | wordBoundaryUnrecognized | wordBoundaryUnexpectedEnd
  | backreference | lookAround | tooDeep
  | unicodeClassInvalid | unicodeNotAllowed | invalidUtf8 | propertyNotFound | valueNotFound
  deriving DecidableEq, Repr

/-- The greatest number of groups, sets and repetitions inside each other. -/
def maxPatternDepth : Nat := 250

/-- The sentence that describes a fault. -/
def PatternFault.message : PatternFault → String
  | classUnclosed => "unclosed character class"
  | classEscapeInvalid => "invalid escape sequence found in character class"
  | classRangeInvalid => "invalid character class range, the start must be <= the end"
  | classRangeLiteral => "invalid range boundary, must be a literal"
  | escapeUnexpectedEnd => "incomplete escape sequence, reached end of pattern prematurely"
  | escapeUnrecognized => "unrecognized escape sequence"
  | escapeHexEmpty => "hexadecimal literal empty"
  | escapeHexInvalid => "hexadecimal literal is not a Unicode scalar value"
  | escapeHexInvalidDigit => "invalid hexadecimal digit"
  | flagDanglingNegation => "dangling flag negation operator"
  | flagDuplicate => "duplicate flag"
  | flagRepeatedNegation => "flag negation operator repeated"
  | flagUnexpectedEnd => "expected flag but got end of regex"
  | flagUnrecognized => "unrecognized flag"
  | groupNameDuplicate => "duplicate capture group name"
  | groupNameEmpty => "empty capture group name"
  | groupNameInvalid => "invalid capture group character"
  | groupNameUnexpectedEnd => "unclosed capture group name"
  | groupUnclosed => "unclosed group"
  | groupUnopened => "unopened group"
  | countInvalid => "decimal literal invalid"
  | countEmpty => "repetition quantifier expects a valid decimal"
  | countUnclosed => "unclosed counted repetition"
  | countRangeInvalid => "invalid repetition count range, the start must be <= the end"
  | repetitionMissing => "repetition operator missing expression"
  | wordBoundaryUnclosed => "special word boundary assertion is either unclosed or contains an invalid character"
  | wordBoundaryUnrecognized =>
    "unrecognized special word boundary assertion, valid choices are: start, end, start-half or end-half"
  | wordBoundaryUnexpectedEnd =>
    "found either the beginning of a special word boundary or a bounded repetition on a \\b with an opening brace, " ++
      "but no closing brace"
  | backreference => "backreferences are not supported"
  | lookAround => "look-around, including look-ahead and look-behind, is not supported"
  | tooDeep => s!"exceed the maximum number of nested parentheses/brackets ({maxPatternDepth})"
  | unicodeClassInvalid => "invalid Unicode character class"
  | unicodeNotAllowed => "Unicode not allowed here"
  | invalidUtf8 => "pattern can match invalid UTF-8"
  | propertyNotFound => "Unicode property not found"
  | valueNotFound => "Unicode property value not found"

/-- A fault with its place. -/
structure PatternBlame where
  fault : PatternFault
  /-- The characters to blame. -/
  span : Span
  /-- Earlier characters to which they do not fit. -/
  related : Option Span
  deriving DecidableEq, Repr

/-- Why a text is refused as a pattern. -/
inductive PatternError where
  | malformed (text : String) (blame : PatternBlame)
  /-- With all repetitions written out, the pattern is too large. -/
  | tooLarge
  deriving DecidableEq, Repr

namespace PatternError

/-- A place of a text by its line and its column, both counted from zero. -/
structure Position where
  line : Nat
  column : Nat
  deriving DecidableEq, Repr

/-- The position behind the first `place` characters of a text. -/
def positionAt (text : List Char) (place : Nat) : Position :=
  let front := text.take place
  ⟨front.count '\n', (front.reverse.takeWhile (· ≠ '\n')).length⟩

/-- The lines of a text without their ends. What stands behind the last end is a line only if it is not empty. -/
def lines (text : String) : List String :=
  let parts := text.splitOn "\n"
  let parts := if parts.getLast? = some "" then parts.dropLast else parts
  parts.map fun line => if line.endsWith "\r" then (line.dropEnd 1).toString else line

def repeated (c : Char) (n : Nat) : String := String.ofList (List.replicate n c)

/-- Marks under the columns of spans, which come in their order. An empty span is marked too. -/
def marks (spans : List (Position × Position)) : String :=
  spans.foldl (fun done (first, last) =>
    done ++ repeated ' ' (first.column - done.length) ++ repeated '^' (max 1 (last.column - first.column))) ""

/-- The lines of a text, with marks below those that have some. Lines are numbered if there are several. -/
def notated (text : String) (spans : List (Position × Position)) : String :=
  let count := (text.splitOn "\n").length
  let width := if count ≤ 1 then 0 else (toString count).length
  String.join ((lines text).zipIdx.map fun (line, i) =>
    let number := toString (i + 1)
    let margin := if width = 0 then "    " else repeated ' ' (width - number.length) ++ number ++ ": "
    let here := spans.filter fun (first, _) => first.line = i
    let below := if here.isEmpty then "" else repeated ' ' margin.length ++ marks here ++ "\n"
    margin ++ line ++ "\n" ++ below)

/-- A pattern with its faults marked. -/
def shown (text : String) (blame : PatternBlame) : String :=
  let chars := text.toList
  let spans := (blame.span :: blame.related.toList).mergeSort fun s t => (s.compare t).isLE
  let placed := spans.map fun s => (positionAt chars s.start, positionAt chars s.stop)
  let (short, long) := placed.partition fun (first, last) => first.line = last.line
  let notes := long.map fun (first, last) =>
    s!"on line {first.line + 1} (column {first.column + 1}) through line {last.line + 1} (column {last.column})\n"
  if chars.contains '\n' then
    let rule := repeated '~' 79 ++ "\n"
    rule ++ notated text short ++ rule ++ String.join notes
  else notated text short

/-- The text that describes an error. -/
def message : PatternError → String
  | malformed text blame => s!"regex parse error:\n{shown text blame}error: {blame.fault.message}"
  | tooLarge => "Compiled regex exceeds size limit of 10485760 bytes."

end PatternError

end ScriptTidy
