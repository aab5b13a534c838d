import ScriptTidy.Pattern.CharSet

/-!
# Patterns

Regular expressions over characters, with conditions on the surroundings of a place. A pattern matches a text if it
matches some stretch of it.

Matching works with sets of places: from the places where a match may begin, `reach` finds the places where it may
end. Repetition grows such a set until nothing is added, which takes no more rounds than the text has places.
-/

namespace ScriptTidy

/-- A condition on the characters next to a place. -/
inductive Look where
  | textStart
  | textEnd
  /-- At the start of a line. With `crlf`, a carriage return ends a line too. -/
  | lineStart (crlf : Bool)
  | lineEnd (crlf : Bool)
  | wordBoundary (word : CharSet)
  | noWordBoundary (word : CharSet)
  | wordStart (word : CharSet)
  | wordEnd (word : CharSet)
  /-- No word character in front. -/
  | wordStartHalf (word : CharSet)
  /-- No word character behind. -/
  | wordEndHalf (word : CharSet)

namespace Look

/-- The condition holds between two characters, each of which may be missing. -/
def holds (look : Look) (before after : Option Char) : Bool :=
  let isWord (word : CharSet) (c : Option Char) : Bool := c.any (word.holds ·.toNat)
  match look with
  | textStart => before.isNone
  | textEnd => after.isNone
  | lineStart crlf =>
    before.isNone || before == some '\n' || (crlf && before == some '\r' && after != some '\n')
  | lineEnd crlf =>
    after.isNone || (after == some '\n' && !(crlf && before == some '\r')) || (crlf && after == some '\r')
  | wordBoundary word => isWord word before != isWord word after
  | noWordBoundary word => isWord word before == isWord word after
  | wordStart word => !isWord word before && isWord word after
  | wordEnd word => isWord word before && !isWord word after
  | wordStartHalf word => !isWord word before
  | wordEndHalf word => !isWord word after

end Look

/-- A regular expression. -/
inductive Pattern where
  | empty
  | char (set : CharSet)
  | look (condition : Look)
  | seq (p q : Pattern)
  | alt (p q : Pattern)
  /-- At least `least` times and, if it is given, at most `least + more` times. -/
  | rep (p : Pattern) (least : Nat) (more : Option Nat)

namespace Pattern

/-- Two sets of places together. -/
def merge (s t : List Nat) : List Nat := s ++ t.filter (!s.contains ·)

/-- Apply a function a number of times. -/
def times (f : List Nat → List Nat) : Nat → List Nat → List Nat
  | 0, s => s
  | n + 1, s => times f n (f s)

/-- Add what a function reaches, a number of times or until nothing is added. -/
def grow (f : List Nat → List Nat) : Nat → List Nat → List Nat
  | 0, s => s
  | n + 1, s =>
    let t := merge s (f s)
    if t.length = s.length then s else grow f n t

/-- The places where a match that begins at one of `starts` may end. -/
def reach (text : Array Char) : Pattern → List Nat → List Nat
  | empty, starts => starts
  | char set, starts => starts.filterMap fun i =>
    if text[i]?.any (set.holds ·.toNat) then some (i + 1) else none
  | look condition, starts => starts.filter fun i =>
    condition.holds (if i = 0 then none else text[i - 1]?) text[i]?
  | seq p q, starts => q.reach text (p.reach text starts)
  | alt p q, starts => merge (p.reach text starts) (q.reach text starts)
  | rep p least more, starts =>
    let rounds := text.size + 1
    grow (p.reach text) (more.elim rounds (min rounds)) (times (p.reach text) least starts)

/-- The pattern matches some stretch of the text. -/
def isMatch (p : Pattern) (text : String) : Bool :=
  let chars := text.toList.toArray
  !(p.reach chars (List.range (chars.size + 1))).isEmpty

/-- The number of single characters in the pattern with all repetitions written out. -/
def expandedSize : Pattern → Nat
  | empty | look _ => 1
  | char _ => 1
  | seq p q | alt p q => p.expandedSize + q.expandedSize
  | rep p least more => p.expandedSize * (least + more.getD 1)

/-- The greatest expanded size of a pattern that is accepted. -/
def maxExpandedSize : Nat := 250000

end Pattern

end ScriptTidy
