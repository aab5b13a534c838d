import ScriptTidy.Diff.Compaction

/-!
# Hunks

The changes of a text with a few unchanged lines around them, as they are shown to a reader. Changes that are close to
each other share a hunk.
-/

namespace ScriptTidy

/-- A block of a comparison: old lines, and the new lines in their place. If the block is `kept`, they are the same. -/
structure Block where
  kept : Bool
  old : Nat
  oldSize : Nat
  new : Nat
  newSize : Nat
  deriving DecidableEq, Repr

/-- Blocks that are shown together. -/
abbrev Hunk := List Block

namespace Diff

/-- Cut a text behind every end of a line: a newline, a carriage return, or both. -/
def splitLines (line : List Char) : List Char → List String
  | [] => if line.isEmpty then [] else [String.ofList line.reverse]
  | '\r' :: '\n' :: cs => String.ofList ('\n' :: '\r' :: line).reverse :: splitLines [] cs
  | c :: cs =>
    if c = '\r' ∨ c = '\n' then String.ofList (c :: line).reverse :: splitLines [] cs else splitLines (c :: line) cs

/-- The lines of a text, each with its end. -/
def lines (text : String) : List String := splitLines [] text.toList

/-- Join a stretch to the block before it: lines that stay to lines that stay, and all other lines to a change. A
change has its places from the first stretch that goes and the first that comes. -/
def addStretch (blocks : List Block) (s : Stretch) : List Block :=
  let fresh : Block := ⟨s.fate = .stays, s.old, s.oldSize, s.new, s.newSize⟩
  match blocks with
  | [] => [fresh]
  | b :: rest =>
    if b.kept ≠ fresh.kept then fresh :: b :: rest
    else
      { b with
        oldSize := b.oldSize + s.oldSize
        newSize := b.newSize + s.newSize
        old := if b.oldSize = 0 ∧ s.fate = .goes then s.old else b.old
        new := if b.newSize = 0 ∧ s.fate = .comes then s.new else b.new } :: rest

/-- The blocks of a comparison. -/
def blocks (old new : List String) : List Block :=
  ((compact old.toArray new.toArray (shortest old new)).foldl addStretch []).reverse

/-- The last lines of a block. -/
def lastLines (count : Nat) (b : Block) : Block :=
  let skipped := b.oldSize - count
  ⟨b.kept, b.old + skipped, b.oldSize - skipped, b.new + skipped, b.newSize - skipped⟩

/-- The first lines of a block. -/
def firstLines (count : Nat) (b : Block) : Block :=
  { b with oldSize := min b.oldSize count, newSize := min b.newSize count }

/-- Shorten kept lines at the front to the context that is shown. -/
def trimFront (context : Nat) : List Block → List Block
  | b :: bs => if b.kept then lastLines context b :: bs else b :: bs
  | [] => []

/-- Shorten kept lines at the end to the context that is shown. -/
def trimEnd (context : Nat) (bs : List Block) : List Block :=
  match bs.reverse with
  | b :: rest => (if b.kept then firstLines context b :: rest else b :: rest).reverse
  | [] => []

/-- Cut blocks apart where more lines are kept than the context of two hunks. `pending` is the hunk so far, with its
last block first. -/
def cut (context : Nat) (pending : Hunk) : List Block → List Hunk
  | [] => if pending.any (!·.kept) then [pending.reverse] else []
  | b :: bs =>
    if b.kept ∧ 2 * context < b.oldSize then
      (firstLines context b :: pending).reverse :: cut context [lastLines context b] bs
    else cut context (b :: pending) bs

/-- The hunks of a comparison of two lists of lines. -/
def hunks (context : Nat) (old new : List String) : List Hunk :=
  cut context [] (trimEnd context (trimFront context (blocks old new)))

/-- Where lines start, counted from one, and how many they are. A count of one is left out, and where there are no
lines the line before is given. -/
def rangeText (start size : Nat) : String :=
  if size = 1 then toString (start + 1)
  else if size = 0 then s!"{start},0"
  else s!"{start + 1},{size}"

/-- The heading of a hunk. -/
def heading (h : Hunk) : String :=
  match h.head?, h.getLast? with
  | some first, some last =>
    let oldText := rangeText first.old (last.old + last.oldSize - first.old)
    let newText := rangeText first.new (last.new + last.newSize - first.new)
    s!"@@ -{oldText} +{newText} @@"
  | _, _ => ""

/-- The lines of a hunk with what happens to them. -/
def changes (old new : Array String) (h : Hunk) : List (Fate × String) :=
  h.flatMap fun b =>
    if b.kept then (linesAt old b.old b.oldSize).map (Fate.stays, ·)
    else
      (linesAt old b.old b.oldSize).map (Fate.goes, ·) ++ (linesAt new b.new b.newSize).map (Fate.comes, ·)

end Diff

end ScriptTidy
