/-!
# Differences between two lists of lines

A script says how to get from old lines to new ones: stretches of lines that stay, go or come. `shortest` finds a
script with as few changed lines as possible by the method of the middle snake: searching from both ends at once for
the lines that the ends of the two searches have in common, and then solving what lies before and behind.
-/

namespace ScriptTidy

/-- What happens to the lines of a stretch. -/
inductive Fate where
  | stays
  | goes
  | comes
  deriving DecidableEq, Repr

/-- Lines with one fate, and where they stand. Lines that come stand before the old line `old`, and lines that go stood
before the new line `new`. -/
structure Stretch where
  fate : Fate
  old : Nat
  new : Nat
  size : Nat
  deriving DecidableEq, Repr

namespace Stretch

/-- The number of old lines. -/
def oldSize (s : Stretch) : Nat := if s.fate = .comes then 0 else s.size

/-- The number of new lines. -/
def newSize (s : Stretch) : Nat := if s.fate = .goes then 0 else s.size

end Stretch

namespace Diff

/-- The number of lines that two lists have in common at the front. -/
def commonFront : List String → List String → Nat
  | a :: as, b :: bs => if a = b then commonFront as bs + 1 else 0
  | _, _ => 0

/-- The number of lines that two lists have in common at the end. -/
def commonEnd (as bs : List String) : Nat := commonFront as.reverse bs.reverse

/-- How far a search has come on each diagonal. -/
structure Frontier where
  /-- The place of diagonal zero among the values. -/
  offset : Nat
  values : Array Nat

namespace Frontier

/-- Room for the diagonals up to a number in both directions. -/
def ofSize (size : Nat) : Frontier := ⟨size, Array.replicate (2 * size + 1) 0⟩

def get (f : Frontier) (k : Int) : Nat := f.values.getD (k + f.offset).toNat 0

def set (f : Frontier) (k : Int) (x : Nat) : Frontier := ⟨f.offset, f.values.setIfInBounds (k + f.offset).toNat x⟩

/-- Where diagonal `k` is entered in round `d`: from the neighbour that has come further. -/
def entry (f : Frontier) (d k : Int) : Nat :=
  if k = -d ∨ (k ≠ d ∧ f.get (k - 1) < f.get (k + 1)) then f.get (k + 1) else f.get (k - 1) + 1

end Frontier

/-- Go along diagonal `k` from `x` for as long as `common` says that lines agree. -/
def advance (n m : Nat) (x : Nat) (k : Int) (common : Nat → Nat → Nat) : Nat :=
  let y := (x : Int) - k
  if x < n ∧ 0 ≤ y ∧ y < m then common x y.toNat else 0

/-- The point at which two searches meet, or the furthest points of the searches so far. -/
abbrev Search := Except (Nat × Nat) Frontier

/-- One round of the search from the front, over the diagonals from `d` down in steps of two. `count` of them are
left. -/
def forwardRound (as bs : List String) (back : Frontier) (d : Nat) : Nat → Frontier → Search
  | 0, front => .ok front
  | count + 1, front =>
    let n := as.length
    let delta : Int := n - bs.length
    let k : Int := 2 * (count + 1 : Nat) - 2 - d
    let x := front.entry d k
    let reached := x + advance n bs.length x k fun x y => commonFront (as.drop x) (bs.drop y)
    let met := delta % 2 ≠ 0 ∧ (k - delta).natAbs + 1 ≤ d ∧ n ≤ reached + back.get (delta - k)
    if met then .error (x, ((x : Int) - k).toNat)
    else forwardRound as bs back d count (front.set k reached)

/-- One round of the search from the end. -/
def backwardRound (as bs : List String) (front : Frontier) (d : Nat) : Nat → Frontier → Search
  | 0, back => .ok back
  | count + 1, back =>
    let n := as.length
    let m := bs.length
    let delta : Int := n - m
    let k : Int := 2 * (count + 1 : Nat) - 2 - d
    let x := back.entry d k
    let reached := x + advance n m x k fun x y => commonEnd (as.take (n - x)) (bs.take (m - y))
    let met := delta % 2 = 0 ∧ (k - delta).natAbs ≤ d ∧ n ≤ reached + front.get (delta - k)
    if met then .error (n - reached, m - ((reached : Int) - k).toNat)
    else backwardRound as bs front d count (back.set k reached)

/-- Search from both ends, round `d` first, for at most `rounds` rounds. -/
def meet? (as bs : List String) : Nat → Nat → Frontier → Frontier → Option (Nat × Nat)
  | 0, _, _, _ => none
  | rounds + 1, d, front, back =>
    match forwardRound as bs back d (d + 1) front with
    | .error point => some point
    | .ok front =>
      match backwardRound as bs front d (d + 1) back with
      | .error point => some point
      | .ok back => meet? as bs rounds (d + 1) front back

/-- A point on a shortest way from the front to the end of both lists. -/
def middle? (as bs : List String) : Option (Nat × Nat) :=
  let rounds := (as.length + bs.length + 1) / 2 + 1
  meet? as bs rounds 0 (.ofSize (rounds + 1)) (.ofSize (rounds + 1))

/-- A list without its last lines. -/
def withoutLast (lines : List String) (count : Nat) : List String := lines.take (lines.length - count)

/-- The script for two lists that start at lines `i` and `j`. The `fuel` bounds how often the lists are cut. -/
def scriptFrom : Nat → Nat → Nat → List String → List String → List Stretch
  | 0, i, j, as, bs => [⟨.goes, i, j, as.length⟩, ⟨.comes, i + as.length, j, bs.length⟩]
  | fuel + 1, i, j, as, bs =>
    let front := commonFront as bs
    let back := commonEnd (as.drop front) (bs.drop front)
    let oldCore := withoutLast (as.drop front) back
    let newCore := withoutLast (bs.drop front) back
    let stays (first second size : Nat) : List Stretch := if size = 0 then [] else [⟨.stays, first, second, size⟩]
    let i' := i + front
    let j' := j + front
    let core :=
      if oldCore.isEmpty && newCore.isEmpty then []
      else if newCore.isEmpty then [⟨.goes, i', j', oldCore.length⟩]
      else if oldCore.isEmpty then [⟨.comes, i', j', newCore.length⟩]
      else
        match middle? oldCore newCore with
        | some (x, y) =>
          scriptFrom fuel i' j' (oldCore.take x) (newCore.take y) ++
            scriptFrom fuel (i' + x) (j' + y) (oldCore.drop x) (newCore.drop y)
        | none => [⟨.goes, i', j', oldCore.length⟩, ⟨.comes, i', j', newCore.length⟩]
    stays i j front ++ core ++ stays (i' + oldCore.length) (j' + newCore.length) back

/-- A script with as few changed lines as possible. -/
def shortest (old new : List String) : List Stretch := scriptFrom (old.length + new.length + 1) 0 0 old new

end Diff

end ScriptTidy
