/-!
# Searching in texts

Names are compared whole, by their beginning, or by any part of them.  These
tests work on characters and are told apart by what they say of the text around
the match.
-/

namespace RouteGraft.Text

/-- Whether `part` stands somewhere in a text. -/
def occurs (part : List Char) : List Char → Bool
  | [] => part.isEmpty
  | c :: rest => part.isPrefixOf (c :: rest) || occurs part rest
termination_by structural text => text

/-- Whether one text stands somewhere in another. -/
def isPart (part text : String) : Bool := occurs part.toList text.toList

/-- Whether a text starts with another. -/
def startsWith (start text : String) : Bool := start.toList.isPrefixOf text.toList

theorem occurs_iff {part text : List Char} : occurs part text = true ↔ part <:+: text := by
  induction text with
  | nil => cases part <;> simp [occurs]
  | cons c rest ih =>
      simp only [occurs, Bool.or_eq_true, List.isPrefixOf_iff_prefix, ih, List.infix_cons_iff]

end RouteGraft.Text
