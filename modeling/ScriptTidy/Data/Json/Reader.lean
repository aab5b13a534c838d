import ScriptTidy.Data.Decimal
import ScriptTidy.Data.Json.Basic

/-!
# Reading JSON

A text is cut into tokens, and the tokens are put together into a value with a stack of the arrays and objects that
are still open. Texts that are no JSON, numbers beyond the range of double precision and values nested too deeply are
refused.
-/

namespace ScriptTidy

namespace Json

/-- The tokens of JSON. -/
inductive Token where
  | openArray
  | closeArray
  | openObject
  | closeObject
  | comma
  | colon
  /-- A value that is neither an array nor an object. -/
  | scalar (value : Json)

/-- A part of a quoted text: a character, or half of one given by its number. -/
inductive Piece where
  | char (c : Char)
  | unit (n : Nat)

/-- The character that stands behind a backslash for another one. -/
def unescape? : Char → Option Char
  | '"' => some '"'
  | '\\' => some '\\'
  | '/' => some '/'
  | 'b' => some (Char.ofNat 8)
  | 'f' => some (Char.ofNat 12)
  | 'n' => some '\n'
  | 'r' => some '\r'
  | 't' => some '\t'
  | _ => none

/-- The parts of a quoted text behind its first quote, and what follows the last quote. -/
def pieces? : List Char → Option (List Piece × List Char)
  | [] => none
  | '"' :: rest => some ([], rest)
  | '\\' :: 'u' :: a :: b :: c :: d :: rest => do
    let n ← Decimal.value? 16 [a, b, c, d]
    let (ps, rest) ← pieces? rest
    return (.unit n :: ps, rest)
  | '\\' :: c :: rest => do
    let c ← unescape? c
    let (ps, rest) ← pieces? rest
    return (.char c :: ps, rest)
  | c :: rest =>
    if c.toNat < 32 then none
    else do
      let (ps, rest) ← pieces? rest
      return (.char c :: ps, rest)

/-- The number is the first half of a pair. -/
def isLeading (n : Nat) : Bool := 0xD800 ≤ n && n < 0xDC00

/-- The number is the second half of a pair. -/
def isTrailing (n : Nat) : Bool := 0xDC00 ≤ n && n < 0xE000

/-- The characters of the parts. A half without its other half is refused. -/
def joinPieces? : List Piece → Option (List Char)
  | [] => some []
  | .char c :: ps => (joinPieces? ps).map (c :: ·)
  | .unit n :: .unit m :: ps =>
    if isLeading n then
      if isTrailing m then
        (joinPieces? ps).map (Char.ofNat (0x10000 + (n - 0xD800) * 0x400 + (m - 0xDC00)) :: ·)
      else none
    else if isTrailing n then none
    else (joinPieces? (.unit m :: ps)).map (Char.ofNat n :: ·)
  | .unit n :: ps =>
    if isLeading n || isTrailing n then none else (joinPieces? ps).map (Char.ofNat n :: ·)

/-- The digits of a whole number: one zero, or digits that do not start with a zero. -/
def wholeDigits? (cs : List Char) : Option (List Char × List Char) :=
  match Decimal.span cs with
  | ([], _) => none
  | ('0' :: _ :: _, _) => none
  | r => some r

/-- The digits behind a point. -/
def fraction? : List Char → Option (List Char × List Char)
  | '.' :: rest =>
    match Decimal.span rest with
    | ([], _) => none
    | r => some r
  | rest => some ([], rest)

/-- The power of ten behind a letter `e`. -/
def power? : List Char → Option (Int × List Char)
  | c :: rest =>
    if c = 'e' ∨ c = 'E' then
      let (sign, rest) : Int × List Char := match rest with
        | '-' :: rest => (-1, rest)
        | '+' :: rest => (1, rest)
        | rest => (1, rest)
      match Decimal.span rest with
      | ([], _) => none
      | (ds, rest) => some (sign * Decimal.value ds, rest)
    else some (0, c :: rest)
  | [] => some (0, [])

/-- A number at the front, and what follows it. -/
def number? (cs : List Char) : Option (Json × List Char) := do
  let (sign, cs) : Int × List Char := match cs with
    | '-' :: rest => (-1, rest)
    | rest => (1, rest)
  let (whole, cs) ← wholeDigits? cs
  let (fraction, cs) ← fraction? cs
  let (power, cs) ← power? cs
  let mantissa := Decimal.value (whole ++ fraction)
  let exponent := power - fraction.length
  if Decimal.inRange mantissa exponent then some (number (sign * mantissa) exponent, cs) else none

/-- The characters between tokens that say nothing. -/
def isBlank (c : Char) : Bool := c = ' ' || c = '\n' || c = '\t' || c = '\r'

/-- The token that starts with a character, and what follows it. -/
def token? (c : Char) (rest : List Char) : Option (Token × List Char) :=
  match c, rest with
  | '[', rest => some (.openArray, rest)
  | ']', rest => some (.closeArray, rest)
  | '\x7b', rest => some (.openObject, rest)
  | '\x7d', rest => some (.closeObject, rest)
  | ',', rest => some (.comma, rest)
  | ':', rest => some (.colon, rest)
  | 'n', 'u' :: 'l' :: 'l' :: rest => some (.scalar null, rest)
  | 't', 'r' :: 'u' :: 'e' :: rest => some (.scalar (bool true), rest)
  | 'f', 'a' :: 'l' :: 's' :: 'e' :: rest => some (.scalar (bool false), rest)
  | '"', rest => do
    let (ps, rest) ← pieces? rest
    let cs ← joinPieces? ps
    return (.scalar (text (String.ofList cs)), rest)
  | c, rest => (number? (c :: rest)).map fun (n, rest) => (.scalar n, rest)

/-- Cut a text into tokens. The `fuel` bounds their number together with that of the blanks, and the length of the text
is enough. -/
def tokens? : Nat → List Char → Option (List Token)
  | _, [] => some []
  | 0, _ :: _ => none
  | fuel + 1, c :: rest =>
    if isBlank c then tokens? fuel rest
    else do
      let (t, rest) ← token? c rest
      let ts ← tokens? fuel rest
      return t :: ts

/-- An array or object that waits for a value. -/
inductive Frame where
  /-- The items so far, the last one first. -/
  | array (items : List Json)
  /-- The fields so far, the last one first, and the key of the value that comes. -/
  | object (fields : List (String × Json)) (key : String)

/-- What has to come next. -/
inductive Expected where
  | value
  /-- A value, or the end of an array without items. -/
  | firstItem
  /-- A key. Without fields so far it may also be the end of the object. -/
  | key (fields : List (String × Json))
  | colon (fields : List (String × Json)) (key : String)
  /-- A value is complete. -/
  | after (value : Json)

/-- The number of arrays and objects that may stand inside each other. -/
def maxDepth : Nat := 127

/-- Put tokens together into a value. -/
def build? (stack : List Frame) : Expected → List Token → Option Json
  | .after v, [] => if stack.isEmpty then some v else none
  | _, [] => none
  | .value, .scalar v :: ts | .firstItem, .scalar v :: ts => build? stack (.after v) ts
  | .value, .openArray :: ts | .firstItem, .openArray :: ts =>
    if stack.length < maxDepth then build? (.array [] :: stack) .firstItem ts else none
  | .value, .openObject :: ts | .firstItem, .openObject :: ts =>
    if stack.length < maxDepth then build? stack (.key []) ts else none
  | .firstItem, .closeArray :: ts => build? stack.tail (.after (array [])) ts
  | .key fields, .scalar (text key) :: ts => build? stack (.colon fields key) ts
  | .key [], .closeObject :: ts => build? stack (.after (object [])) ts
  | .colon fields key, .colon :: ts => build? (.object fields key :: stack) .value ts
  | .after v, t :: ts =>
    match stack, t with
    | .array items :: stack, .comma => build? (.array (v :: items) :: stack) .value ts
    | .array items :: stack, .closeArray => build? stack (.after (array (v :: items).reverse)) ts
    | .object fields key :: stack, .comma => build? stack (.key ((key, v) :: fields)) ts
    | .object fields key :: stack, .closeObject => build? stack (.after (object ((key, v) :: fields).reverse)) ts
    | _, _ => none
  | _, _ => none

/-- The value that a text stands for. -/
def ofText? (s : String) : Option Json := do
  let cs := s.toList
  let ts ← tokens? cs.length cs
  build? [] .value ts

end Json

end ScriptTidy
