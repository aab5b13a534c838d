import ScriptTidy.Diff.Script

/-!
# Compaction of scripts

Where lines repeat, a stretch that goes or comes can be moved without changing what the script does. Every such stretch
is moved up as far as it can be and then down as far as it can be, and stretches that meet on the way are joined. So
changes end up next to each other, and late rather than early.
-/

namespace ScriptTidy

namespace Diff

/-- A script with one of its stretches picked out. -/
structure Cursor where
  /-- The stretches before, the nearest first. -/
  before : List Stretch
  this : Stretch
  after : List Stretch

/-- Some of the lines. -/
def linesAt (lines : Array String) (first size : Nat) : List String := (lines.extract first (first + size)).toList

/-- The lines of a stretch: those that come from the new lines, all others from the old ones. -/
def linesOf (old new : Array String) (s : Stretch) : List String :=
  if s.fate = .comes then linesAt new s.new s.size else linesAt old s.old s.size

/-- Lines that stay, if there are any. -/
def staying (old new size : Nat) : List Stretch := if size = 0 then [] else [⟨.stays, old, new, size⟩]

/-- Lines at the end of `prev`, which stay, come to stand behind `this`. -/
def growAfter (prev this : Stretch) (count : Nat) : List Stretch → List Stretch
  | ⟨.stays, old, new, size⟩ :: after => ⟨.stays, old - count, new - count, size + count⟩ :: after
  | after =>
    ⟨.stays, prev.old + prev.size + this.oldSize - count, prev.new + prev.size + this.newSize - count, count⟩ :: after

/-- Lines at the front of `next`, which stay, come to stand before `this`. -/
def growBefore (this next : Stretch) (count : Nat) : List Stretch → List Stretch
  | ⟨.stays, old, new, size⟩ :: before => ⟨.stays, old, new, size + count⟩ :: before
  | before => ⟨.stays, next.old - this.oldSize, next.new - this.newSize, count⟩ :: before

/-- Move the stretch under the cursor up as far as it goes. The `fuel` bounds the number of lines and stretches that it
passes. -/
def moveUp (old new : Array String) : Nat → Cursor → Cursor
  | 0, c => c
  | fuel + 1, c =>
    match c.before with
    | [] => c
    | prev :: before =>
      if prev.fate = .stays then
        let count := commonEnd (linesOf old new prev) (linesOf old new c.this)
        if count = 0 then if prev.size = 0 then moveUp old new fuel { c with before := before } else c
        else
          moveUp old new fuel {
            before := staying prev.old prev.new (prev.size - count) ++ before
            this := { c.this with old := c.this.old - count, new := c.this.new - count }
            after := growAfter prev c.this count c.after }
      else if prev.fate = c.this.fate then
        moveUp old new fuel { c with before := before, this := { prev with size := prev.size + c.this.size } }
      else moveUp old new fuel ⟨before, c.this, prev :: c.after⟩

/-- Move the stretch under the cursor down as far as it goes. -/
def moveDown (old new : Array String) : Nat → Cursor → Cursor
  | 0, c => c
  | fuel + 1, c =>
    match c.after with
    | [] => c
    | next :: after =>
      if next.fate = .stays then
        let count := commonFront (linesOf old new next) (linesOf old new c.this)
        if count = 0 then if next.size = 0 then moveDown old new fuel { c with after := after } else c
        else
          moveDown old new fuel {
            before := growBefore c.this next count c.before
            this := { c.this with old := c.this.old + count, new := c.this.new + count }
            after := staying (next.old + count) (next.new + count) (next.size - count) ++ after }
      else if next.fate = c.this.fate then
        moveDown old new fuel { c with after := after, this := { c.this with size := c.this.size + next.size } }
      else moveDown old new fuel ⟨next :: c.before, c.this, after⟩

/-- Move all stretches of one fate, those behind the ones that have been looked at. -/
def settle (old new : Array String) (fate : Fate) (fuel : Nat) : Nat → List Stretch → List Stretch → List Stretch
  | 0, before, after => before.reverse ++ after
  | _, before, [] => before.reverse
  | count + 1, before, this :: after =>
    if this.fate = fate then
      let c := moveDown old new fuel (moveUp old new fuel ⟨before, this, after⟩)
      settle old new fate fuel count (c.this :: c.before) c.after
    else settle old new fate fuel count (this :: before) after

/-- Move the lines that go, and then the lines that come. -/
def compact (old new : Array String) (script : List Stretch) : List Stretch :=
  let fuel := 2 * (old.size + new.size + script.length) + 2
  let pass (fate : Fate) (script : List Stretch) : List Stretch := settle old new fate fuel fuel [] script
  pass .comes (pass .goes script)

end Diff

end ScriptTidy
