import ScriptTidy.Pattern.Basic
import ScriptTidy.Pattern.Error

/-!
# Reading patterns

The written form of patterns. Flags that a group switches hold up to the end of the group around them, across
alternatives. Everything that is refused has a cause of its own and a place. Faults of the form are reported before
faults of the meaning, such as the name of an unknown class.
-/

namespace ScriptTidy

namespace PatternReader

/-- The switches of a pattern that change how it is read. -/
structure Flags where
  ignoreCase : Bool
  multiLine : Bool
  dotAll : Bool
  crlf : Bool
  unicode : Bool
  /-- Blanks and comments are skipped. -/
  spaced : Bool

/-- What is left to read, and what has been found out so far. -/
structure State where
  rest : List Char
  /-- The number of characters of the whole pattern. -/
  length : Nat
  flags : Flags
  /-- The names of the groups, with their places. -/
  groupNames : List (String × Span)
  /-- The first fault of the meaning. -/
  misfit : Option PatternBlame

abbrev Read := StateT State (Except PatternBlame)

def rest : Read (List Char) := return (← get).rest

def flags : Read Flags := return (← get).flags

def setRest (cs : List Char) : Read Unit := modify fun s => { s with rest := cs }

/-- The span from where `first` was left to read up to where `last` is left. -/
def spanBetween (first last : List Char) : Read Span := do
  let length := (← get).length
  return ⟨length - first.length, length - last.length⟩

/-- Refuse the characters between two places. -/
def refuse {α : Type} (fault : PatternFault) (first last : List Char) : Read α := do
  throw ⟨fault, ← spanBetween first last, none⟩

/-- Refuse what has been read since `first` was left to read. -/
def refuseSince {α : Type} (fault : PatternFault) (first : List Char) : Read α := do refuse fault first (← rest)

/-- Refuse the place that has been reached. -/
def refuseHere {α : Type} (fault : PatternFault) : Read α := do refuse fault (← rest) (← rest)

/-- Refuse the next character. -/
def refuseNext {α : Type} (fault : PatternFault) : Read α := do refuse fault (← rest) ((← rest).drop 1)

/-- Note a fault of the meaning in what has been read since `first` was left to read. -/
def objectSince (fault : PatternFault) (first : List Char) : Read Unit := do
  let span ← spanBetween first (← rest)
  modify fun s => { s with misfit := s.misfit.or (some ⟨fault, span, none⟩) }

def isBlank (c : Char) : Bool := CharSet.whiteSpace.holds c.toNat

/-- The characters behind blanks and comments. -/
def dropBlank : Bool → List Char → List Char
  | _, [] => []
  | true, c :: cs => dropBlank (c != '\n') cs
  | false, c :: cs =>
    if isBlank c then dropBlank false cs else if c = '#' then dropBlank true cs else c :: cs

/-- Skip blanks, where blanks are skipped. -/
def skipBlank : Read Unit := do
  if (← flags).spaced then setRest (dropBlank false (← rest))

/-- Go on behind `cs` and blanks. -/
def advance (cs : List Char) : Read Unit := do setRest cs; skipBlank

/-- The first character of `cs` that is neither a blank nor, where blanks are skipped, the mark of a comment. -/
def peekBehind (cs : List Char) : Read (Option Char) := do
  if (← flags).spaced then
    match cs.dropWhile isBlank with
    | '#' :: more => return (more.dropWhile isBlank).head?
    | more => return more.head?
  else return cs.head?

/-- What a single escape or character stands for. -/
inductive Piece where
  | literal (c : Char)
  | set (s : CharSet)
  | look (l : Look)

/-! ### Sets under the flags -/

/-- A set of bytes may hold ASCII characters only, since other bytes are no characters. The set has been read since
`first` was left to read. -/
def checkSet (first : List Char) (s : CharSet) : Read CharSet := do
  unless (← flags).unicode do
    if (List.range 0x80).any fun i => s.holds (0x80 + i) then objectSince .invalidUtf8 first
  return s

/-- Take in what differs in case, if case does not count, and then negate. -/
def foldAndNegate (first : List Char) (negated : Bool) (s : CharSet) : Read CharSet := do
  let f ← flags
  let s := if f.ignoreCase then CharSet.folded f.unicode s else s
  checkSet first (s.negateIf negated)

/-- One of the classes of digits, blanks and word characters. -/
def shortClass (first : List Char) (c : Char) : Read CharSet := do
  let unicode := (← flags).unicode
  let base := match c.toLower with
    | 'd' => if unicode then CharSet.decimalDigit else .asciiDigit
    | 's' => if unicode then .whiteSpace else .asciiSpace
    | _ => if unicode then .wordCharacter else .asciiWord
  checkSet first (base.negateIf c.isUpper)

def wordSet : Read CharSet := return if (← flags).unicode then .wordCharacter else .asciiWord

/-- A literal under the flags. -/
def literalPattern (first : List Char) (c : Char) : Read Pattern := do
  let f ← flags
  if f.ignoreCase then
    if !f.unicode && 0x80 ≤ c.toNat then objectSince .unicodeNotAllowed first
    return .char (.folded f.unicode (.single c))
  return .char (.single c)

/-- Any character, as far as the flags allow. -/
def dotPattern (first : List Char) : Read Pattern := do
  let f ← flags
  unless f.unicode do objectSince .invalidUtf8 first
  if f.dotAll then return .char .any
  if f.crlf then return .char (.compl (.union (.single '\r') (.single '\n')))
  return .char (.compl (.single '\n'))

def piecePattern (first : List Char) : Piece → Read Pattern
  | .literal c => literalPattern first c
  | .set s => return .char s
  | .look l => return .look l

/-! ### Escapes

In this part `first` is what is left to read at the backslash.
-/

def hexValue? (c : Char) : Option Nat :=
  if c.isDigit then some (c.toNat - '0'.toNat)
  else if 'a' ≤ c ∧ c ≤ 'f' then some (c.toNat - 'a'.toNat + 10)
  else if 'A' ≤ c ∧ c ≤ 'F' then some (c.toNat - 'A'.toNat + 10)
  else none

/-- The character with a given number, whose digits stand between two places. -/
def scalar (start stop : List Char) (code : Nat) : Read Char :=
  if code < 0xD800 || (0xDFFF < code && code < 0x110000) then return Char.ofNat code
  else refuse .escapeHexInvalid start stop

/-- Exactly so many hexadecimal digits. -/
def hexDigits (value : Nat) : Nat → Read Nat
  | 0 => return value
  | n + 1 => do
    match ← rest with
    | [] => refuseHere .escapeUnexpectedEnd
    | c :: cs =>
      match hexValue? c with
      | none => refuseNext .escapeHexInvalidDigit
      | some d => advance cs; hexDigits (value * 16 + d) n

/-- Hexadecimal digits up to a closing brace, which is not read. -/
def hexBraced (value : Nat) (seen : Bool) : Nat → Read (Nat × Bool)
  | 0 => return (value, seen)
  | fuel + 1 => do
    match ← rest with
    | [] | '}' :: _ => return (value, seen)
    | c :: cs =>
      match hexValue? c with
      | none => refuseNext .escapeHexInvalidDigit
      | some d => advance cs; hexBraced (value * 16 + d) true fuel

/-- A character by its number, behind `x`, `u` or `U`. -/
def hexEscape (first : List Char) (c : Char) (cs : List Char) : Read Piece := do
  advance cs
  let start ← rest
  match start with
  | [] => refuseHere .escapeUnexpectedEnd
  | '{' :: inner =>
    advance inner
    let (code, seen) ← hexBraced 0 false (inner.length + 1)
    let stop ← rest
    if stop.isEmpty then refuseSince .escapeUnexpectedEnd start
    advance (stop.drop 1)
    unless seen do refuseSince .escapeHexEmpty start
    return .literal (← scalar inner stop code)
  | _ =>
    let code ← hexDigits 0 (if c = 'x' then 2 else if c = 'u' then 4 else 8)
    -- two digits name a byte where characters are bytes
    if c = 'x' && !(← flags).unicode && 0x80 ≤ code then objectSince .invalidUtf8 first
    return .literal (← scalar start (← rest) code)

/-- The characters up to a closing brace, without blanks where they are skipped. -/
def upToBrace (fuel : Nat) (acc : List Char) : Read String :=
  match fuel with
  | 0 => refuseHere .escapeUnexpectedEnd
  | fuel + 1 => do
    match ← rest with
    | [] => refuseHere .escapeUnexpectedEnd
    | '}' :: cs => setRest cs; return String.ofList acc.reverse
    | c :: cs => advance cs; upToBrace fuel (c :: acc)

/-- The text in front of the first `mark` and the text behind it. -/
def splitFirst? (mark text : String) : Option (String × String) :=
  match text.splitOn mark with
  | first :: second :: more => some (first, mark.intercalate (second :: more))
  | _ => none

/-- A set by the name of a property and a value. -/
def valuedSet (property value : String) : Except PatternFault CharSet :=
  match CharSet.valued? property value with
  | some s => .ok s
  | none =>
    .error (if ["gc", "generalcategory", "sc", "script", "scx", "scriptextensions"].contains
      (CharSet.looseName property) then .valueNotFound else .propertyNotFound)

/-- A set by its name in braces. -/
def namedSet (name : String) : Except PatternFault CharSet :=
  match splitFirst? "!=" name with
  | some (property, value) => (valuedSet property value).map .compl
  | none =>
    match (splitFirst? ":" name).or (splitFirst? "=" name) with
    | some (property, value) => valuedSet property value
    | none =>
      match CharSet.named? name with
      | some s => .ok s
      | none => .error .propertyNotFound

/-- A class by its name, behind `p` or `P`. -/
def propertyEscape (first : List Char) (negated : Bool) (cs : List Char) : Read Piece := do
  advance cs
  let name ← match ← rest with
    | [] => refuseHere .escapeUnexpectedEnd
    | '{' :: inner => advance inner; upToBrace (inner.length + 1) []
    | '\\' :: _ => refuseNext .unicodeClassInvalid
    | c :: more => advance more; pure (String.ofList [c])
  unless (← flags).unicode do objectSince .unicodeNotAllowed first
  match namedSet name with
  | .ok s => return .set (← foldAndNegate first negated s)
  | .error fault => objectSince fault first; return .set .nothing

/-- The characters that have a meaning of their own in patterns. -/
def isMeta (c : Char) : Bool := "\\.+*?()|[]\x7b\x7d^$#&-~".contains c

/-- Characters that may be escaped though they need not. -/
def isEscapable (c : Char) : Bool := c.toNat < 0x80 && !c.isAlphanum && c != '<' && c != '>'

/-- A character in the name of a special boundary. -/
def isBoundaryLetter (c : Char) : Bool := c.isAlpha || c == '-'

/-- The name of a special boundary. -/
def boundaryName : Nat → Read (List Char)
  | 0 => return []
  | fuel + 1 => do
    match ← rest with
    | c :: cs => if isBoundaryLetter c then advance cs; return c :: (← boundaryName fuel) else return []
    | [] => return []

/-- The special boundaries of words, in braces behind `b`. Braces that hold something else are left alone. -/
def boundaryEscape (first : List Char) (cs : List Char) : Read Piece := do
  let word ← wordSet
  setRest cs
  match cs with
  | '{' :: inner =>
    advance inner
    let contents ← rest
    if contents.isEmpty then refuseSince .wordBoundaryUnexpectedEnd first
    if !contents.head?.any isBoundaryLetter then
      setRest cs
      return .look (.wordBoundary word)
    let name ← boundaryName contents.length
    let stop ← rest
    if stop.head? ≠ some '}' then refuseSince .wordBoundaryUnclosed cs
    setRest (stop.drop 1)
    match String.ofList name with
    | "start" => return .look (.wordStart word)
    | "end" => return .look (.wordEnd word)
    | "start-half" => return .look (.wordStartHalf word)
    | "end-half" => return .look (.wordEndHalf word)
    | _ => refuse .wordBoundaryUnrecognized contents stop
  | _ => return .look (.wordBoundary word)

/-- What stands at a backslash. -/
def escape : Read Piece := do
  let first ← rest
  match first.drop 1 with
  | [] => refuse .escapeUnexpectedEnd first []
  | c :: cs =>
    if c.isDigit then refuse .backreference first cs
    else if c = 'x' || c = 'u' || c = 'U' then hexEscape first c cs
    else if c = 'p' || c = 'P' then propertyEscape first (c = 'P') cs
    else if "dswDSW".contains c then
      setRest cs
      return .set (← shortClass first c)
    else if c = 'b' then boundaryEscape first cs
    else
      setRest cs
      if isMeta c || isEscapable c then return .literal c
      match c with
      | 'a' => return .literal '\x07'
      | 'f' => return .literal '\x0C'
      | 't' => return .literal '\t'
      | 'n' => return .literal '\n'
      | 'r' => return .literal '\r'
      | 'v' => return .literal '\x0B'
      | 'A' => return .look .textStart
      | 'z' => return .look .textEnd
      | 'B' => return .look (.noWordBoundary (← wordSet))
      | '<' => return .look (.wordStart (← wordSet))
      | '>' => return .look (.wordEnd (← wordSet))
      | _ => refuse .escapeUnrecognized first cs

/-! ### Sets in brackets

In this part `opening` is the span of the innermost opening bracket, which is to blame if the set is not closed.
-/

/-- A class between colons, if one stands behind an opening bracket. -/
def colonClass? (cs : List Char) : Option (Bool × CharSet × List Char) :=
  match cs with
  | ':' :: cs =>
    let negated := cs.head? == some '^'
    let cs := if negated then cs.drop 1 else cs
    let name := cs.takeWhile (· != ':')
    match cs.drop name.length with
    | ':' :: ']' :: after => (CharSet.asciiClass? (String.ofList name)).map (negated, ·, after)
    | _ => none
  | _ => none

/-- The set of an opening bracket is not closed. -/
def unclosed {α : Type} (opening : Span) : Read α := throw ⟨.classUnclosed, opening, none⟩

/-- A literal inside brackets, where a character may have to be a byte. -/
def setLiteral (first : List Char) (c : Char) : Read Char := do
  if !(← flags).unicode && 0x80 ≤ c.toNat then objectSince .unicodeNotAllowed first
  return c

/-- The next character or escape inside brackets. -/
def setPiece (opening : Span) : Read Piece := do
  match ← rest with
  | [] => unclosed opening
  | '\\' :: _ => escape
  | c :: cs => setRest cs; return .literal c

/-- The next member or range of members inside brackets. -/
def setMember (opening : Span) : Read CharSet := do
  let start ← rest
  let piece ← setPiece opening
  let stop ← rest
  skipBlank
  match ← rest with
  | [] => unclosed opening
  | c :: cs =>
    let next ← peekBehind cs
    if c ≠ '-' || next == some ']' || next == some '-' then
      match piece with
      | .literal c => return .single (← setLiteral start c)
      | .set s => return s
      | .look _ => refuse .classEscapeInvalid start stop
    else
      advance cs
      if (← rest).isEmpty then unclosed opening
      let later ← rest
      match piece, ← setPiece opening with
      | .literal a, .literal b =>
        if b < a then refuseSince .classRangeInvalid start
        return .range (← setLiteral start a).toNat (← setLiteral later b).toNat
      | .literal _, _ => refuseSince .classRangeLiteral later
      | _, _ => refuse .classRangeLiteral start stop

/-- The operations between the sets inside brackets. -/
inductive SetOp where
  | inter | diff | symDiff

/-- A set that is being read. -/
structure Members where
  set : CharSet
  count : Nat
  /-- The nesting of the members. -/
  depth : Nat

namespace Members

def none : Members := ⟨.nothing, 0, 0⟩

/-- One more member, of a given nesting. -/
def add (m : Members) (s : CharSet) (depth : Nat) : Members := ⟨.union m.set s, m.count + 1, max m.depth depth⟩

/-- The nesting of the members taken together. -/
def totalDepth (m : Members) : Nat := if 1 < m.count then m.depth + 1 else m.depth

end Members

/-- A set with its nesting. -/
abbrev NestedSet := CharSet × Nat

/-- The set on the left of an operation together with the one on its right, as case folding asks. -/
def combine (pending : Option (NestedSet × SetOp)) (right : Members) : Read NestedSet := do
  let f ← flags
  let fold (s : CharSet) : CharSet := if f.ignoreCase then .folded f.unicode s else s
  let join (op : CharSet → CharSet → CharSet) (left : NestedSet) : NestedSet :=
    (op (fold left.1) (fold right.set), max left.2 right.totalDepth + 1)
  match pending with
  | none => return (right.set, right.totalDepth)
  | some (left, .inter) => return join .inter left
  | some (left, .diff) => return join .diff left
  | some (left, .symDiff) => return join .symDiff left

/-- Dashes at the front of a set stand for themselves. The set opens at `first`. -/
def leadingDashes (first : List Char) : Nat → Members → Read Members
  | 0, m => return m
  | fuel + 1, m => do
    match ← rest with
    | '-' :: cs =>
      advance cs
      if (← rest).isEmpty then refuse .classUnclosed first first
      leadingDashes first fuel (m.add (.single '-') 0)
    | _ => return m

/-- Go on behind `cs` in a set that opens at `first` and has to go on. -/
def advanceInside (first cs : List Char) : Read Unit := do
  advance cs
  if (← rest).isEmpty then refuseSince .classUnclosed first

/-- Read an opening bracket with what belongs to it: a sign of negation, dashes, and a closing bracket right behind
them, which stands for itself. -/
def openBracket : Read (Bool × Members × Span) := do
  let first ← rest
  advanceInside first (first.drop 1)
  let negated := (← rest).head? == some '^'
  if negated then advanceInside first ((← rest).drop 1)
  let members ← leadingDashes first first.length .none
  let members ← match members.count, ← rest with
    | 0, ']' :: cs => do
      advanceInside first cs
      pure (members.add (.single ']') 0)
    | _, _ => pure members
  return (negated, members, ← spanBetween first (← rest))

mutual

/-- A set in brackets. -/
def bracketed (fuel : Nat) : Read NestedSet :=
  match fuel with
  | 0 => refuseHere .tooDeep
  | fuel + 1 => do
    let first ← rest
    let (negated, members, opening) ← openBracket
    let (set, depth) ← setItems fuel opening none members
    return (← foldAndNegate first negated set, depth + 1)

/-- The members of a set up to its closing bracket. -/
def setItems (fuel : Nat) (opening : Span) (pending : Option (NestedSet × SetOp)) (members : Members) :
    Read NestedSet :=
  match fuel with
  | 0 => refuseHere .tooDeep
  | fuel + 1 => do
    skipBlank
    let first ← rest
    let operate (op : SetOp) (cs : List Char) : Read NestedSet := do
      setRest cs
      setItems fuel opening (some (← combine pending members, op)) .none
    match first with
    | [] => unclosed opening
    | '[' :: cs =>
      match colonClass? cs with
      | some (negated, s, after) =>
        setRest after
        setItems fuel opening pending (members.add (← foldAndNegate first negated s) 0)
      | none => do
        let (inner, depth) ← bracketed fuel
        setItems fuel opening pending (members.add inner depth)
    | ']' :: cs => setRest cs; combine pending members
    | '&' :: '&' :: cs => operate .inter cs
    | '-' :: '-' :: cs => operate .diff cs
    | '~' :: '~' :: cs => operate .symDiff cs
    | _ => do
      let member ← setMember opening
      setItems fuel opening pending (members.add member 0)

end

/-! ### Groups and repetitions -/

/-- A flag that a group switches on or off. -/
def switch (f : Flags) (c : Char) (on : Bool) : Option Flags :=
  match c with
  | 'i' => some { f with ignoreCase := on }
  | 'm' => some { f with multiLine := on }
  | 's' => some { f with dotAll := on }
  | 'R' => some { f with crlf := on }
  | 'u' => some { f with unicode := on }
  | 'x' => some { f with spaced := on }
  | 'U' => some f
  | _ => none

/-- The flags in front of a colon or a closing bracket. Those seen come with their places, the last one first. -/
def readFlags (seen : List (Char × Span)) (f : Flags) (cs : List Char) : Read Flags := do
  setRest cs
  match cs with
  | [] => refuseHere .flagUnexpectedEnd
  | c :: more =>
    let span ← spanBetween cs more
    let earlier := seen.lookup c
    if c = ':' || c = ')' then
      match seen with
      | ('-', dash) :: _ => throw ⟨.flagDanglingNegation, dash, none⟩
      | _ => return f
    else if c = '-' then
      if earlier.isSome then throw ⟨.flagRepeatedNegation, span, earlier⟩
      readFlags ((c, span) :: seen) f more
    else
      match switch f c (seen.lookup '-').isNone with
      | none => refuseNext .flagUnrecognized
      | some f =>
        if earlier.isSome then throw ⟨.flagDuplicate, span, earlier⟩
        readFlags ((c, span) :: seen) f more

/-- A character of a group's name. -/
def isNameChar (first : Bool) (c : Char) : Bool :=
  if first then c = '_' || CharSet.alphabetic.holds c.toNat
  else c = '_' || c = '.' || c = '[' || c = ']' || CharSet.alphabetic.holds c.toNat ||
    (CharSet.categories ["nd", "nl", "no"]).holds c.toNat

/-- The characters of a name from its start on that fit, up to an angle bracket. -/
def nameRun (cs : List Char) : List Char :=
  match cs with
  | [] => []
  | c :: more =>
    if c ≠ '>' && isNameChar true c then c :: more.takeWhile fun d => d ≠ '>' && isNameChar false d else []

/-- The name of a group up to the angle bracket behind it. -/
def groupName (cs : List Char) : Read Unit := do
  let name := nameRun cs
  let stop := cs.drop name.length
  setRest stop
  match stop with
  | [] => refuseHere .groupNameUnexpectedEnd
  | '>' :: after =>
    if name.isEmpty then refuseHere .groupNameEmpty
    let text := String.ofList name
    let span ← spanBetween cs stop
    if let some earlier := (← get).groupNames.lookup text then throw ⟨.groupNameDuplicate, span, some earlier⟩
    modify fun s => { s with rest := after, groupNames := (text, span) :: s.groupNames }
  | _ => refuseNext .groupNameInvalid

/-- A pattern with its nesting. -/
structure Part where
  pattern : Pattern
  depth : Nat

/-- An item of a sequence. Switches of flags are items that cannot be repeated. -/
inductive Item where
  | switch
  | part (p : Part)

/-- Repeat the last of the items, which are listed from the last to the first. -/
def repeatLast (least : Nat) (more : Option Nat) : List Item → Read (List Item)
  | .part p :: items => return .part ⟨.rep p.pattern least more, p.depth + 1⟩ :: items
  | _ => refuseHere .repetitionMissing

/-- The digits of a number. -/
def digitRun : Nat → Read (List Char)
  | 0 => return []
  | fuel + 1 => do
    match ← rest with
    | c :: cs => if c.isDigit then advance cs; return c :: (← digitRun fuel) else return []
    | [] => return []

/-- A decimal number between blanks, or what is wrong with it. -/
def decimal : Read (Except PatternBlame Nat) := do
  setRest ((← rest).dropWhile isBlank)
  let first ← rest
  let digits ← digitRun first.length
  let span ← spanBetween first (← rest)
  setRest ((← rest).dropWhile isBlank)
  if digits.isEmpty then return .error ⟨.countEmpty, span, none⟩
  let value := digits.foldl (fun v c => v * 10 + (c.toNat - '0'.toNat)) 0
  if 0xFFFFFFFF < value then return .error ⟨.countInvalid, span, none⟩
  return .ok value

/-- The counts in braces: how many times at least, and how many more at most. -/
def counts : Read (Nat × Option Nat) := do
  let first ← rest
  advance (first.drop 1)
  if (← rest).isEmpty then refuseSince .countUnclosed first
  let least ← decimal
  let bounds ← match ← rest with
    | [] => refuseSince .countUnclosed first
    | ',' :: after =>
      advance after
      match ← rest with
      | [] => refuseSince .countUnclosed first
      | '}' :: _ => pure (← least, none)
      | _ => do
        let a ← least
        let b ← decimal
        pure (a, some (← b))
    | _ => do
      let a ← least
      pure (a, some a)
  match ← rest with
  | '}' :: after =>
    advance after
    if let '?' :: more ← rest then setRest more
    match bounds with
    | (a, some b) => if b < a then refuseSince .countRangeInvalid first else return (a, some (b - a))
    | (a, none) => return (a, none)
  | _ => refuseSince .countUnclosed first

/-- Skip the mark of a repetition that prefers to be short. -/
def skipLazyMark (cs : List Char) : List Char :=
  match cs with
  | '?' :: more => more
  | _ => cs

/-- The items, which are listed from the last to the first, one after the other. -/
def sequence (items : List Item) : Part :=
  let pattern := items.foldl (fun later item =>
    match item, later with
    | .switch, _ => later
    | .part p, .empty => p.pattern
    | .part p, _ => .seq p.pattern later) .empty
  let depth := items.foldl (fun d item =>
    match item with
    | .switch => d
    | .part p => max d p.depth) 0
  ⟨pattern, if 1 < items.length then depth + 1 else depth⟩

/-- Several alternatives, or a single one as it is. -/
def choice : List Part → Part
  | [] => ⟨.empty, 0⟩
  | [p] => p
  | p :: ps =>
    let all := p :: ps
    ⟨ps.foldl (fun before q => .alt before q.pattern) p.pattern, (all.map Part.depth).foldl max 0 + 1⟩

/-- The opening of a group that is not read as a pattern of its own. -/
inductive Opening where
  /-- A group whose flags are set. -/
  | group
  /-- Flags that are switched for what follows. -/
  | switch

/-- What stands at an opening bracket, up to the contents of the group. -/
def openGroup : Read Opening := do
  let first ← rest
  advance (first.drop 1)
  let inner ← rest
  match inner with
  | '?' :: '=' :: after | '?' :: '!' :: after => refuse .lookAround first after
  | '?' :: '<' :: '=' :: after | '?' :: '<' :: '!' :: after => refuse .lookAround first after
  | '?' :: 'P' :: '<' :: after | '?' :: '<' :: after => groupName after; return .group
  | '?' :: after =>
    if after.isEmpty then refuse .groupUnclosed first (first.drop 1)
    let f ← readFlags [] (← flags) after
    let stop ← rest
    modify fun s => { s with rest := stop.drop 1, flags := f }
    if stop.head? = some ':' then return .group
    if after.head? = some ')' then refuse .repetitionMissing inner inner
    return .switch
  | _ => return .group

mutual

/-- The alternatives up to a closing bracket or the end. -/
def alternatives (fuel : Nat) : Read (List Part) :=
  match fuel with
  | 0 => refuseHere .tooDeep
  | fuel + 1 => do
    let part ← branch fuel []
    match ← rest with
    | '|' :: cs =>
      setRest cs
      return part :: (← alternatives fuel)
    | _ => return [part]

/-- One alternative, behind the items read so far. -/
def branch (fuel : Nat) (items : List Item) : Read Part :=
  match fuel with
  | 0 => refuseHere .tooDeep
  | fuel + 1 => do
    skipBlank
    let first ← rest
    let more (p : Pattern) : Read Part := branch fuel (.part ⟨p, 0⟩ :: items)
    let look (cs : List Char) (l : Flags → Look) : Read Part := do
      setRest cs
      more (.look (l (← flags)))
    let repeated (least : Nat) (most : Option Nat) (cs : List Char) : Read Part := do
      let items ← repeatLast least most items
      setRest (skipLazyMark cs)
      branch fuel items
    match first with
    | [] | ')' :: _ | '|' :: _ => return sequence items
    | '(' :: cs =>
      let outer ← flags
      match ← openGroup with
      | .switch => branch fuel (.switch :: items)
      | .group =>
        let inner := choice (← alternatives fuel)
        match ← rest with
        | ')' :: after =>
          modify fun s => { s with rest := after, flags := outer }
          branch fuel (.part ⟨inner.pattern, inner.depth + 1⟩ :: items)
        | _ => refuse .groupUnclosed first cs
    | '[' :: cs =>
      let (set, depth) ← bracketed (2 * cs.length + 4)
      branch fuel (.part ⟨.char set, depth⟩ :: items)
    | '?' :: cs => repeated 0 (some 1) cs
    | '*' :: cs => repeated 0 none cs
    | '+' :: cs => repeated 1 none cs
    | '{' :: _ =>
      match items with
      | .part _ :: _ =>
        let (least, most) ← counts
        branch fuel (← repeatLast least most items)
      | _ => refuseHere .repetitionMissing
    | '\\' :: _ => more (← piecePattern first (← escape))
    | '.' :: cs =>
      setRest cs
      more (← dotPattern first)
    | '^' :: cs => look cs fun f => if f.multiLine then .lineStart f.crlf else .textStart
    | '$' :: cs => look cs fun f => if f.multiLine then .lineEnd f.crlf else .textEnd
    | c :: cs =>
      setRest cs
      more (← literalPattern first c)

end

/-- A whole pattern. -/
def whole (length : Nat) : Read Part := do
  let part := choice (← alternatives (2 * length + 2))
  unless (← rest).isEmpty do refuseNext .groupUnopened
  if maxPatternDepth < part.depth then throw ⟨.tooDeep, ⟨0, length⟩, none⟩
  if let some blame := (← get).misfit then throw blame
  return part

end PatternReader

/-- Read a pattern. -/
def Pattern.ofText (text : String) : Except PatternError Pattern :=
  let cs := text.toList
  match (PatternReader.whole cs.length).run ⟨cs, cs.length, ⟨false, false, false, false, true, false⟩, [], none⟩ with
  | .error blame => .error (.malformed text blame)
  | .ok (part, _) => if maxExpandedSize < part.pattern.expandedSize then .error .tooLarge else .ok part.pattern

end ScriptTidy
