import RouteGraft.Text.Utf8

/-!
# Spans

A span is a stretch of a source, from the offset of its first byte to the
offset behind its last one.  Offsets are integers: the spans that are read off
a source lie inside it, but an outline that comes from elsewhere may hold any
numbers at all.
-/

namespace RouteGraft

/-- A stretch of a source. -/
structure Span where
  /-- The offset of the first byte. -/
  start : Int
  /-- The offset behind the last byte. -/
  stop : Int
  deriving DecidableEq, Repr, Inhabited

namespace Span

/-- From the start of one span to the stop of another. -/
def through (a b : Span) : Span := ⟨a.start, b.stop⟩

/-- The bytes of a source in a span. -/
def bytes (source : Bytes) (s : Span) : Bytes :=
  (source.drop s.start.toNat).take (s.stop.toNat - s.start.toNat)

/-- The text of a source in a span, which has to be UTF-8. -/
def text (source : Bytes) (s : Span) : Except Utf8.DecodeError String :=
  Utf8.decode (s.bytes source)

end Span

end RouteGraft
