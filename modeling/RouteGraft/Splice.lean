import RouteGraft.Text.Utf8

/-!
# Splicing

A source is never rewritten: a change puts one text in at one offset and every
byte before and behind it stays as it is.  Offsets come from the outline of a
source and are integers, since an outline may have been drawn up by someone
else and say anything.  An offset outside of the content is refused.
-/

namespace RouteGraft

/-- An offset outside of the content it is meant for. -/
structure OffsetOutside where
  /-- The offset. -/
  offset : Int
  /-- The length of the content. -/
  length : Nat
  deriving DecidableEq, Repr

/-- The wording of the refusal. -/
def OffsetOutside.message (e : OffsetOutside) : String :=
  "Offset " ++ toString e.offset ++ " outside of content (length " ++ toString e.length ++ ")"

/-- The content with `piece` put in at `offset`. -/
def splice (content : Bytes) (offset : Int) (piece : Bytes) : Except OffsetOutside Bytes :=
  if 0 ≤ offset ∧ offset ≤ content.length then
    .ok (content.take offset.toNat ++ piece ++ content.drop offset.toNat)
  else .error ⟨offset, content.length⟩

theorem splice_ok {content piece result : Bytes} {offset : Int}
    (h : splice content offset piece = .ok result) :
    0 ≤ offset ∧ offset ≤ content.length ∧
      result = content.take offset.toNat ++ piece ++ content.drop offset.toNat := by
  unfold splice at h
  split at h
  · next hin => exact ⟨hin.1, hin.2, (Except.ok.inj h).symm⟩
  · exact absurd h (by simp)

/-- Splicing adds the length of what is put in. -/
theorem length_of_splice {content piece result : Bytes} {offset : Int}
    (h : splice content offset piece = .ok result) :
    result.length = content.length + piece.length := by
  obtain ⟨h0, hle, rfl⟩ := splice_ok h
  simp only [List.length_append, List.length_take, List.length_drop]
  omega

end RouteGraft
