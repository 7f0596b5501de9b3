import RouteGraft.Outline
import RouteGraft.Text.Search

/-!
# Anchors

A fragment goes to a class of the source that is already there, its *anchor*.
Anchors are found by what a class is built on, as it is written in the source:
a text in the type it extends, the plain name of that type, or the plain name of
a type it implements.  Nothing is resolved, so a class that happens to be
written alike is an anchor as well.

Where several classes match the last one is the anchor.  A class that extends
nothing matches no test on what it extends, not even one for an empty text.
-/

namespace RouteGraft

/-- A test on a class. -/
abbrev ClassTest := ClassOutline → Bool

namespace ClassTest

/-- Classes that extend a type with `text` in it, type arguments included. -/
def extendsText (text : String) : ClassTest := fun c => c.superclass.any (Text.isPart text)

/-- Classes that extend a type of one of some names. -/
def extendsOneOf (names : List String) : ClassTest := fun c =>
  c.superclassName.any (names.contains ·)

/-- Classes that implement a type of one of some names. -/
def implementsAny (names : List String) : ClassTest := fun c =>
  c.interfaces.any (names.contains ·)

end ClassTest

/-- The last class that passes a test. -/
def Outline.anchor? (o : Outline) (test : ClassTest) : Option ClassOutline :=
  (o.classes.filter test).getLast?

theorem Outline.anchor?_passes {o : Outline} {test : ClassTest} {c : ClassOutline}
    (h : o.anchor? test = some c) : c ∈ o.classes ∧ test c = true :=
  List.mem_filter.mp (List.mem_of_getLast? h)

end RouteGraft
