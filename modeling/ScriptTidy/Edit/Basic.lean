import ScriptTidy.Text.Span

/-!
# Edits

An edit changes one span of a text: it takes the span out, puts another text in its place, or puts a text in front
of an offset. Offsets always refer to the text as it was before any edit.
-/

namespace ScriptTidy

/-- One change to a text. -/
inductive Edit where
  /-- Take out the bytes of the span. -/
  | delete (span : Span)
  /-- Put `text` in the place of the span. -/
  | replace (span : Span) (text : String)
  /-- Put `text` in front of the byte at `offset`. -/
  | insert (offset : Nat) (text : String)
  deriving DecidableEq, Repr

namespace Edit

/-- The bytes that an edit takes away. An insertion takes none. -/
def span : Edit → Span
  | delete s => s
  | replace s _ => s
  | insert offset _ => .point offset

/-- The text that an edit leaves in the place of its span. -/
def replacement : Edit → String
  | delete _ => ""
  | replace _ text => text
  | insert _ text => text

def isDelete : Edit → Bool
  | delete _ => true
  | _ => false

def isInsert : Edit → Bool
  | insert _ _ => true
  | _ => false

/-- Where the span of the edit starts. -/
def start (e : Edit) : Nat := e.span.start

/-- Where the span of the edit stops. -/
def stop (e : Edit) : Nat := e.span.stop

/-- The spans of the two edits overlap. -/
def overlaps (e f : Edit) : Bool := e.span.overlaps f.span

/-- The rank of an edit among edits of one span. Deletions come first, so that they take in the others. -/
def rank : Edit → Nat
  | delete _ => 0
  | replace _ _ => 1
  | insert _ _ => 2

/-- A deletion takes in every edit of a span inside its own. An insertion has to stand strictly inside: at either end
of the deleted span it is next to the deleted text, and stays. -/
def supersedes (e f : Edit) : Bool :=
  e.isDelete && if f.isInsert then e.start < f.start && f.start < e.stop else e.span.covers f.span

@[simp] theorem span_delete (s : Span) : (delete s).span = s := rfl
@[simp] theorem span_replace (s : Span) (t : String) : (replace s t).span = s := rfl
@[simp] theorem span_insert (o : Nat) (t : String) : (insert o t).span = .point o := rfl

@[simp] theorem start_delete (s : Span) : (delete s).start = s.start := rfl
@[simp] theorem start_replace (s : Span) (t : String) : (replace s t).start = s.start := rfl
@[simp] theorem start_insert (o : Nat) (t : String) : (insert o t).start = o := rfl

@[simp] theorem stop_delete (s : Span) : (delete s).stop = s.stop := rfl
@[simp] theorem stop_replace (s : Span) (t : String) : (replace s t).stop = s.stop := rfl
@[simp] theorem stop_insert (o : Nat) (t : String) : (insert o t).stop = o := rfl

theorem isDelete_of_supersedes {e f : Edit} (h : e.supersedes f = true) : e.isDelete = true := by
  simp only [supersedes, Bool.and_eq_true] at h; exact h.1

end Edit

end ScriptTidy
