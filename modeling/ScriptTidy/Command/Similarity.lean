/-!
# Similar words

The Jaro similarity of two words: how many characters they have in common at about the same place, and how many of
these are out of order. It is a number between zero and one.
-/

namespace ScriptTidy

namespace Similarity

/-- Look for a character among those from place `low` up to place `high`, and take it. The place where it was found, and
the places that are still free. -/
def take? (c : Char) (low high : Nat) : Nat → List (Char × Bool) → Option (List (Char × Bool))
  | _, [] => none
  | place, (d, free) :: rest =>
    if low ≤ place ∧ place < high ∧ free ∧ c = d then some ((d, false) :: rest)
    else (take? c low high (place + 1) rest).map ((d, free) :: ·)

/-- Pair the characters of one word with those of the other that are at most `range` places away. The paired characters
of the first word, and the second word with what is still free. -/
def pair (range : Nat) : Nat → List Char → List (Char × Bool) → List Char × List (Char × Bool)
  | _, [], other => ([], other)
  | place, c :: cs, other =>
    match take? c (place - range) (place + range + 1) 0 other with
    | some other =>
      let (paired, other) := pair range (place + 1) cs other
      (c :: paired, other)
    | none => pair range (place + 1) cs other

/-- The similarity of two words as a fraction. -/
def fraction (a b : String) : Nat × Nat :=
  let n := a.length
  let m := b.length
  if n = 0 ∧ m = 0 then (1, 1)
  else
    let (paired, other) := pair (max n m / 2 - 1) 0 a.toList (b.toList.map (·, true))
    let taken := (other.filter (!·.2)).map (·.1)
    let count := paired.length
    let disorder := (paired.zip taken).countP (fun (c, d) => c ≠ d) / 2
    if count = 0 then (0, 1)
    else (count * count * m + count * count * n + (count - disorder) * n * m, 3 * n * m * count)

/-- The first fraction is the smaller one. -/
def less (p q : Nat × Nat) : Bool := p.1 * q.2 < q.1 * p.2

/-- The least similarity that counts, which is not enough by itself. -/
def threshold : Nat × Nat := (7, 10)

/-- The words that are similar to a given one, the most similar last. -/
def similar (word : String) (words : List String) : List String :=
  let scored := (words.map fun w => (fraction word w, w)).filter fun (score, _) => less threshold score
  (scored.mergeSort fun p q => !less q.1 p.1).map (·.2)

end Similarity

end ScriptTidy
