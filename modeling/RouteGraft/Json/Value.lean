import RouteGraft.Json.Number

/-!
# Values of JSON

The members of an object are kept in the order of the document, also where a
key is written several times.  Looking up a key gives the last of them.
-/

namespace RouteGraft

/-- A value. -/
inductive Json where
  | null
  | bool (b : Bool)
  | number (n : Json.Number)
  | string (s : String)
  | array (elements : List Json)
  | object (members : List (String × Json))
  deriving Repr, Inhabited

namespace Json

/-- The members of an object, in order. -/
abbrev Members := List (String × Json)

/-- The value of the last member of a key. -/
def Members.lookup? (key : String) : Members → Option Json
  | [] => none
  | (k, v) :: rest =>
      match lookup? key rest with
      | some later => some later
      | none => if k = key then some v else none

end Json

end RouteGraft
