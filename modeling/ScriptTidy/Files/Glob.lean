import ScriptTidy.Pattern.Basic

/-!
# Globs

A glob describes paths. A star and a question mark stand for what has no slash in it, and two stars between slashes
for any number of folders. Globs look at the bytes of a path: a question mark is one byte.
-/

namespace ScriptTidy

/-- A part of a glob. -/
inductive GlobPart where
  | char (c : Char)
  /-- One byte that is no slash. -/
  | any
  /-- Bytes that are no slashes. -/
  | star
  /-- Any folders at the front, or none. -/
  | leading
  /-- A slash and whatever follows. -/
  | trailing
  /-- A slash, or folders between two slashes. -/
  | between
  /-- One of the characters in the ranges, or of those that are in none of them. -/
  | oneOf (negated : Bool) (ranges : List (Char × Char))
  /-- One of several globs. -/
  | choice (branches : List (List GlobPart))
  deriving Repr

namespace Glob

/-! ### Reading -/

/-- The branches of a choice that is being read: those that are complete, and the parts of the last one. All of it is
kept with the last thing first. -/
structure Level where
  branches : List (List GlobPart)
  parts : List GlobPart

/-- The state of a reader: the innermost choice, those around it, and the character read last. -/
structure Reading where
  inner : Level
  outer : List Level
  last : Option Char

namespace Reading

def start : Reading := ⟨⟨[], []⟩, [], none⟩

/-- One more part. -/
def push (r : Reading) (p : GlobPart) : Reading :=
  { r with inner := ⟨r.inner.branches, p :: r.inner.parts⟩ }

/-- The reader stands in a choice. -/
def inChoice (r : Reading) : Bool := !r.outer.isEmpty

/-- The branches of the innermost choice. -/
def allBranches (r : Reading) : List (List GlobPart) :=
  ((r.inner.parts.reverse :: r.inner.branches).reverse).filter (!·.isEmpty)

/-- Close the innermost choice. -/
def close? (r : Reading) : Option Reading :=
  match r.outer with
  | [] => none
  | level :: outer => some (({ r with inner := level, outer := outer } : Reading).push (.choice r.allBranches))

/-- Read two stars that stand between slashes, or in the place of one of them. The slash in front is part of it. -/
def folders (r : Reading) (atEnd : Bool) : Reading :=
  match r.inner.parts with
  | .leading :: _ | .trailing :: _ => r
  | _ :: parts => { r with inner := ⟨r.inner.branches, (if atEnd then .trailing else .between) :: parts⟩ }
  | [] => r

end Reading

/-- Close a range that has been opened by a hyphen. -/
def closeRange? : List (Char × Char) → Char → Option (List (Char × Char))
  | (first, _) :: ranges, last => if last < first then none else some ((first, last) :: ranges)
  | [], _ => none

/-- Read the ranges up to a closing bracket. `isOpen` tells that a hyphen has opened a range, and
`first` that nothing has been read. -/
def ranges? (ranges : List (Char × Char)) (isOpen first : Bool) : List Char → Option (List (Char × Char) × List Char)
  | [] => none
  | c :: cs =>
    if c = ']' ∧ first = false then
      some ((if isOpen then ('-', '-') :: ranges else ranges).reverse, cs)
    else if isOpen then
      match closeRange? ranges c with
      | some ranges => ranges? ranges false false cs
      | none => none
    else if c = '-' ∧ first = false then ranges? ranges true false cs
    else ranges? ((c, c) :: ranges) false false cs

/-- Read a set of characters behind its opening bracket. -/
def set? (cs : List Char) : Option (GlobPart × List Char) :=
  match cs with
  | '!' :: rest | '^' :: rest => (ranges? [] false true rest).map fun (ranges, rest) => (.oneOf true ranges, rest)
  | rest => (ranges? [] false true rest).map fun (ranges, rest) => (.oneOf false ranges, rest)

/-- Read two stars, which stand in front of `rest`. A slash behind them may belong to them. -/
def doubleStar (r : Reading) (rest : List Char) : Reading × List Char :=
  let plain : Reading × List Char := ({ (r.push .star).push .star with last := some '*' }, rest)
  let afterSlash (r : Reading) (rest : List Char) : Reading × List Char := ({ r with last := some '/' }, rest)
  let atEnd (r : Reading) : Reading × List Char := ({ r with last := some '*' }, rest)
  if r.inner.parts.isEmpty then
    match rest with
    | [] => atEnd (r.push .leading)
    | '/' :: rest => afterSlash (r.push .leading) rest
    | _ => plain
  else if r.last = some '/' || (r.inChoice && (r.last = some ',' || r.last = some '\x7b')) then
    match rest with
    | [] => atEnd (r.folders true)
    | '/' :: rest => afterSlash (r.folders false) rest
    | c :: _ => if r.inChoice && (c = ',' || c = '\x7d') then atEnd (r.folders true) else plain
  else plain

/-- Read the characters of a glob. The `fuel` is their number. -/
def read? : Nat → Reading → List Char → Option Reading
  | _, r, [] => some r
  | 0, _, _ => none
  | fuel + 1, r, c :: cs =>
    let next : Reading := { r with last := some c }
    match c, cs with
    | '?', cs => read? fuel (next.push .any) cs
    | '*', '*' :: cs =>
      let (r, rest) := doubleStar r cs
      read? fuel r rest
    | '*', cs => read? fuel (next.push .star) cs
    | '[', cs =>
      match set? cs with
      | some (part, rest) => read? fuel ({ next with last := some ']' }.push part) rest
      | none => none
    | '\x7b', cs => read? fuel { next with inner := ⟨[], []⟩, outer := r.inner :: r.outer } cs
    | '\x7d', cs =>
      match next.close? with
      | some r => read? fuel r cs
      | none => none
    | ',', cs =>
      if r.inChoice then
        read? fuel { next with inner := ⟨r.inner.parts.reverse :: r.inner.branches, []⟩ } cs
      else read? fuel (next.push (.char ',')) cs
    | '\\', d :: cs => read? fuel ({ next with last := some d }.push (.char d)) cs
    | '\\', [] => none
    | c, cs => read? fuel (next.push (.char c)) cs

/-- The parts of a glob. -/
def ofText? (s : String) : Option (List GlobPart) :=
  match read? s.length .start s.toList with
  | some r => if r.inChoice then none else some r.inner.parts.reverse
  | none => none

/-! ### Matching -/

/-- A text as its bytes, each of them as the character of that number. -/
def byteChars (s : String) : List Char := s.toUTF8.toList.map fun b => Char.ofNat b.toNat

/-- The bytes of a character one after the other. -/
def charPattern (c : Char) : Pattern :=
  (byteChars c.toString).foldr (fun b p => .seq (.char (.single b)) p) .empty

def slash : Pattern := .char (.single '/')

/-- One byte that is no slash. -/
def noSlash : Pattern := .char (.compl (.single '/'))

/-- Any bytes. -/
def anything : Pattern := .rep (.char .any) 0 none

/-- The bytes of a range of characters, or of both ends if they have several bytes. -/
def rangeSet (r : Char × Char) : CharSet :=
  if r.2.toNat < 128 then .range r.1.toNat r.2.toNat
  else .unions ((byteChars r.1.toString ++ byteChars r.2.toString).map .single)

/-- One of several patterns. Without any, nothing is asked for. -/
def choose : List Pattern → Pattern
  | [] => .empty
  | [p] => p
  | p :: ps => .alt p (choose ps)

/-- The pattern of one part of a glob. -/
def partPattern : GlobPart → Pattern
  | .char c => charPattern c
  | .any => noSlash
  | .star => .rep noSlash 0 none
  | .leading => .alt (.rep slash 0 (some 1)) (.seq anything slash)
  | .trailing => .seq slash anything
  | .between => .alt slash (.seq slash (.seq anything slash))
  | .oneOf negated ranges => .char (.negateIf negated (.unions (ranges.map rangeSet)))
  | .choice branches => choose (branchPatterns branches)
where
  branchPatterns : List (List GlobPart) → List Pattern
    | [] => []
    | b :: bs => sequence b :: branchPatterns bs
  sequence : List GlobPart → Pattern
    | [] => .empty
    | p :: ps => .seq (partPattern p) (sequence ps)

/-- The pattern of a glob. -/
def pattern (parts : List GlobPart) : Pattern := parts.foldr (fun p q => .seq (partPattern p) q) .empty

/-- The glob describes the whole path. -/
def isMatch (parts : List GlobPart) (path : String) : Bool :=
  let bytes := (byteChars path).toArray
  ((pattern parts).reach bytes [0]).contains bytes.size

end Glob

end ScriptTidy
