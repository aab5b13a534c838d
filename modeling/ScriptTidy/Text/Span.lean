/-!
# Spans of a text

A span is a pair of byte offsets into one text, read as the half-open interval from `start` to `stop`. Nothing is
asked of the two offsets: a span may lie beyond its text, and one whose `start` is not below its `stop` holds no
byte.
-/

namespace ScriptTidy

/-- The bytes from `start` up to, and not including, `stop`. -/
structure Span where
  start : Nat
  stop : Nat
  deriving DecidableEq, Repr, Inhabited

namespace Span

/-- The empty span in front of the byte at `offset`. -/
def point (offset : Nat) : Span := ⟨offset, offset⟩

/-- The number of bytes in a span, which is zero when the offsets stand in the wrong order. -/
def size (s : Span) : Nat := s.stop - s.start

/-- A span without bytes. -/
def isEmpty (s : Span) : Bool := s.stop ≤ s.start

/-- The offsets of `inner` lie between those of `outer`. -/
def covers (outer inner : Span) : Bool := outer.start ≤ inner.start && inner.stop ≤ outer.stop

/-- Each span starts before the other stops. For two spans that are not empty, they share a byte. -/
def overlaps (s t : Span) : Bool := s.start < t.stop && t.start < s.stop

/-- The byte at `offset` belongs to the span. -/
def holds (s : Span) (offset : Nat) : Bool := s.start ≤ offset && offset < s.stop

/-- Spans are ordered by where they start and, from the same start, by where they stop. -/
def compare (s t : Span) : Ordering := (Ord.compare s.start t.start).then (Ord.compare s.stop t.stop)

/-- The written form `start..stop`. -/
def text (s : Span) : String := s!"{s.start}..{s.stop}"

@[simp] theorem size_point (offset : Nat) : (point offset).size = 0 := by simp [point, size]

@[simp] theorem isEmpty_point (offset : Nat) : (point offset).isEmpty = true := by simp [point, isEmpty]

theorem covers_iff {outer inner : Span} :
    outer.covers inner = true ↔ outer.start ≤ inner.start ∧ inner.stop ≤ outer.stop := by simp [covers]

theorem overlaps_iff {s t : Span} : s.overlaps t = true ↔ s.start < t.stop ∧ t.start < s.stop := by
  simp [overlaps]

theorem isEmpty_iff {s : Span} : s.isEmpty = true ↔ s.stop ≤ s.start := by simp [isEmpty]

@[simp] theorem covers_self (s : Span) : s.covers s = true := by simp [covers]

theorem covers_trans {a b c : Span} (hab : a.covers b = true) (hbc : b.covers c = true) :
    a.covers c = true := by
  rw [covers_iff] at *; omega

theorem overlaps_comm (s t : Span) : s.overlaps t = t.overlaps s := by simp [overlaps, Bool.and_comm]

end Span

end ScriptTidy
