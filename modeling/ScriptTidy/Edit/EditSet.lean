import ScriptTidy.Edit.Basic
import ScriptTidy.Text.Slice

/-!
# Sets of edits that fit together

Proposed edits are merged in one sweep over them in the order of their starts. A deletion takes in the edits inside
it, equal edits count once, and any other overlap is a conflict. What is left can be applied to the text at once,
because no edit starts before the one in front of it stops.
-/

namespace ScriptTidy

/-- An edit together with its place in the list it was proposed in. -/
structure PlacedEdit where
  index : Nat
  edit : Edit
  deriving DecidableEq, Repr

namespace PlacedEdit

/-- Number the edits of a list from `index` on. -/
def number (index : Nat) : List Edit → List PlacedEdit
  | [] => []
  | e :: es => ⟨index, e⟩ :: number (index + 1) es

/-- The order of the sweep: by start; from one start, insertions first, then the furthest stop, then deletions before
replacements, then the order of the proposal. -/
def comesBefore (a b : PlacedEdit) : Bool :=
  if a.edit.start ≠ b.edit.start then a.edit.start < b.edit.start
  else if a.edit.isInsert ≠ b.edit.isInsert then a.edit.isInsert
  else if a.edit.stop ≠ b.edit.stop then b.edit.stop < a.edit.stop
  else if a.edit.rank ≠ b.edit.rank then a.edit.rank < b.edit.rank
  else a.index ≤ b.index

end PlacedEdit

/-- Two proposed edits that overlap while neither takes in the other. -/
structure Conflict where
  first : PlacedEdit
  second : PlacedEdit
  deriving DecidableEq, Repr

/-- The sentence that describes a conflict. -/
def Conflict.message (c : Conflict) : String :=
  s!"conflicting edits: #{c.first.index} at {c.first.edit.span.text} overlaps " ++
    s!"#{c.second.index} at {c.second.edit.span.text}"

/-- Why a list of edits cannot be applied to a text. -/
inductive EditError where
  /-- Two of the edits overlap. -/
  | conflict (cause : Conflict)
  /-- A span reaches beyond the text, or its ends stand in the wrong order. -/
  | outOfBounds (span : Span) (sourceSize : Nat)
  /-- An end of a span lies inside a character. -/
  | splitsCharacter (span : Span)
  deriving DecidableEq, Repr

/-- The sentence that describes an edit error. -/
def EditError.message : EditError → String
  | conflict cause => cause.message
  | outOfBounds span sourceSize => s!"edit at {span.text} out of bounds: source length {sourceSize}"
  | splitsCharacter span => s!"edit at {span.text} splits a UTF-8 character"

/-- Edits in the order of their starts, none of which reaches into the next, with the number of proposed edits that
were dropped on the way. -/
structure EditSet where
  edits : List Edit
  superseded : Nat
  deriving DecidableEq, Repr, Inhabited

namespace EditSet

/-- What the sweep knows after some of the edits. -/
structure Sweep where
  /-- The edits kept so far, the latest first. -/
  kept : List PlacedEdit
  /-- The latest deletion among them. -/
  cover : Option Edit
  /-- The edit among them that reaches furthest, the latest of those that reach equally far. -/
  furthest : Option PlacedEdit
  /-- How many edits were dropped. -/
  superseded : Nat
  deriving Repr

namespace Sweep

def empty : Sweep := ⟨[], none, none, 0⟩

/-- The latest deletion takes in `e`, or `e` equals the edit kept last. -/
def drops (s : Sweep) (e : Edit) : Bool :=
  s.cover.any (·.supersedes e) || s.kept.head?.any (·.edit = e)

/-- The kept edit that `e` starts inside of, if there is one. -/
def clash? (s : Sweep) (e : Edit) : Option PlacedEdit :=
  s.furthest.filter (e.start < ·.edit.stop)

/-- The sweep after keeping `p`. -/
def keep (s : Sweep) (p : PlacedEdit) : Sweep where
  kept := p :: s.kept
  cover := if p.edit.isDelete then some p.edit else s.cover
  furthest := if s.furthest.all (·.edit.stop ≤ p.edit.stop) then some p else s.furthest
  superseded := s.superseded

/-- One edit of the sweep: dropped, in conflict, or kept. -/
def step (s : Sweep) (p : PlacedEdit) : Except Conflict Sweep :=
  if s.drops p.edit then .ok { s with superseded := s.superseded + 1 }
  else match s.clash? p.edit with
    | some owner => .error ⟨owner, p⟩
    | none => .ok (s.keep p)

/-- The sweep over a list of edits, up to the first conflict. -/
def run (s : Sweep) : List PlacedEdit → Except Conflict Sweep
  | [] => .ok s
  | p :: ps =>
    match s.step p with
    | .error c => .error c
    | .ok s' => run s' ps

end Sweep

/-- Merge the proposed edits, or name two that are in conflict. -/
def merge (edits : List Edit) : Except Conflict EditSet :=
  match Sweep.empty.run ((PlacedEdit.number 0 edits).mergeSort PlacedEdit.comesBefore) with
  | .error c => .error c
  | .ok s => .ok ⟨s.kept.reverse.map (·.edit), s.superseded⟩

def size (s : EditSet) : Nat := s.edits.length

def isEmpty (s : EditSet) : Bool := s.edits.isEmpty

/-- Why an edit does not fit the text, if it does not. -/
def misfit? (source : String) (e : Edit) : Option EditError :=
  if source.utf8ByteSize < e.stop ∨ e.stop < e.start then some (.outOfBounds e.span source.utf8ByteSize)
  else if isBoundary source e.start && isBoundary source e.stop then none
  else some (.splitsCharacter e.span)

/-- Every edit fits the text, or the first that does not is named. -/
def validate (s : EditSet) (source : String) : Except EditError Unit :=
  match s.edits.findSome? (misfit? source) with
  | some e => .error e
  | none => .ok ()

/-- The text after one edit. -/
def applyEdit (e : Edit) (source : String) : String := splice source e.span e.replacement

/-- The text after all the edits of the set. They are carried out from the last to the first, so that each finds the
text in front of it, and with it every offset that counts, untouched. -/
def apply (s : EditSet) (source : String) : Except EditError String :=
  match s.validate source with
  | .error e => .error e
  | .ok () => .ok (s.edits.foldr applyEdit source)

end EditSet

/-- Edits that are being collected for one text. -/
structure EditDraft where
  source : String
  edits : List Edit
  deriving Repr

namespace EditDraft

/-- No edits of `source` yet. -/
def start (source : String) : EditDraft := ⟨source, []⟩

def add (d : EditDraft) (e : Edit) : EditDraft := { d with edits := d.edits ++ [e] }

def addAll (d : EditDraft) (es : List Edit) : EditDraft := { d with edits := d.edits ++ es }

def size (d : EditDraft) : Nat := d.edits.length

/-- The merged edits, which also fit the text. -/
def merged (d : EditDraft) : Except EditError EditSet :=
  match EditSet.merge d.edits with
  | .error c => .error (.conflict c)
  | .ok s =>
    match s.validate d.source with
    | .error e => .error e
    | .ok () => .ok s

/-- The text after the collected edits. -/
def apply (d : EditDraft) : Except EditError String :=
  match d.merged with
  | .error e => .error e
  | .ok s => s.apply d.source

end EditDraft

end ScriptTidy
