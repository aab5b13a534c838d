import ScriptTidy.Text.Span

/-!
# Slices of a text

Offsets count the bytes of a text's UTF-8 form. A slice exists when both ends of the span lie between two characters
and stand in order; otherwise the slice is the empty text. `splice` puts a text in the place of a span.
-/

namespace ScriptTidy

/-- The offset lies between two characters of `s`, or at one of its ends. -/
def isBoundary (s : String) (offset : Nat) : Bool := String.Pos.Raw.isValid s ⟨offset⟩

/-- The text of a span, if both its ends are boundaries and stand in order. -/
def slice? (s : String) (r : Span) : Option String :=
  if h : r.start ≤ r.stop ∧ isBoundary s r.start = true ∧ isBoundary s r.stop = true then
    some (String.extract
      (⟨⟨r.start⟩, String.Pos.Raw.isValid_eq_true_iff.1 h.2.1⟩ : s.Pos)
      (⟨⟨r.stop⟩, String.Pos.Raw.isValid_eq_true_iff.1 h.2.2⟩ : s.Pos))
  else none

/-- The text of a span, empty where there is none. -/
def slice (s : String) (r : Span) : String := (slice? s r).getD ""

/-- The text `s` with `t` in the place of the span `r`. -/
def splice (s : String) (r : Span) (t : String) : String :=
  slice s ⟨0, r.start⟩ ++ t ++ slice s ⟨r.stop, s.utf8ByteSize⟩

/-- A place in a text as an editor shows it, counted from zero: the line, and the bytes since its start. -/
structure LinePosition where
  row : Nat
  column : Nat
  deriving DecidableEq, Repr

/-- The row and column reached after the first `offset` bytes of the characters given, from row `row` and column
`column`. -/
def LinePosition.advance (row column : Nat) : Nat → List Char → LinePosition
  | _, [] => ⟨row, column⟩
  | 0, _ => ⟨row, column⟩
  | offset + 1, c :: cs =>
    if c = '\n' then advance (row + 1) 0 offset cs
    else advance row (column + min c.utf8Size (offset + 1)) (offset + 1 - c.utf8Size) cs

/-- The line and column of a byte offset. -/
def linePosition (s : String) (offset : Nat) : LinePosition := LinePosition.advance 0 0 offset s.toList

theorem isBoundary_zero (s : String) : isBoundary s 0 = true := by
  rw [isBoundary, String.Pos.Raw.isValid_eq_true_iff]; exact String.Pos.Raw.isValid_zero

theorem isBoundary_utf8ByteSize (s : String) : isBoundary s s.utf8ByteSize = true := by
  rw [isBoundary, String.Pos.Raw.isValid_eq_true_iff]; exact String.Pos.Raw.isValid_rawEndPos

end ScriptTidy
