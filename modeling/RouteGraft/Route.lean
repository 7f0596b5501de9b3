import RouteGraft.Naming

/-!
# Routes

A route is a class of the application that the navigator can show.  There are
four kinds of them and each comes with a description (`RouteMeta`): the prefix
of the names of its classes, the class they extend, the type of the result the
route gives back, and whether it is shown inside a tab.

The result type of a route that gives nothing back is written `Never`.  The
method that opens such a route returns `void`, and of any other route a
nullable result (`RouteMeta.resultType`), since the user may leave without one.
-/

namespace RouteGraft

/-! ## Descriptions -/

/-- The result type of a route that gives nothing back. -/
def noResult : String := "Never"

/-- The description of one kind of route. -/
structure RouteMeta where
  /-- The prefix of the names of its classes and mappers. -/
  typeName : String := ""
  /-- The class its classes extend. -/
  baseClass : String
  /-- The type of its result. -/
  generic : String := noResult
  /-- Whether it is shown inside a tab. -/
  isInTab : Bool := false
  deriving DecidableEq, Repr

/-- The result type of the method that opens a route. -/
def RouteMeta.resultType (m : RouteMeta) : String :=
  if m.generic = noResult then "void" else m.generic ++ "?"

/-- The name of the class of a route. -/
def RouteMeta.className (m : RouteMeta) (name : String) : String := m.typeName ++ name

/-! ## The four kinds -/

/-- The kinds of routes that come with a description. -/
inductive RouteKind where
  | page
  | bottomSheet
  | dialog
  | tabHolder
  deriving DecidableEq, Repr

namespace RouteKind

/-- Every kind, in the order in which they are listed to the user. -/
def all : List RouteKind := [.page, .bottomSheet, .dialog, .tabHolder]

/-- The word by which the user selects a kind. -/
def key : RouteKind → String
  | .page => "page"
  | .bottomSheet => "bottomSheet"
  | .dialog => "dialog"
  | .tabHolder => "tabHolder"

/-- The description of a kind. -/
def describe : RouteKind → RouteMeta
  | .page => { typeName := "Page", baseClass := "NavPage" }
  | .bottomSheet => { typeName := "BottomSheet", baseClass := "NavBottomSheet" }
  | .dialog => { typeName := "Dialog", baseClass := "NavDialog" }
  | .tabHolder => { typeName := "TabHolder", baseClass := "NavTabHolder", isInTab := true }

/-- The description of a kind whose routes give back `generic`.  An empty text
stands for no result. -/
def metaFor (k : RouteKind) (generic : Option String) : RouteMeta :=
  match generic with
  | some g => if g = "" then k.describe else { k.describe with generic := g }
  | none => k.describe

end RouteKind

/-! ## Selecting a kind by its word -/

/-- A word that names no kind of route. -/
structure UnknownKind where
  /-- The word. -/
  key : String
  deriving DecidableEq, Repr

/-- The wording of the refusal.  The kinds are listed alphabetically. -/
def UnknownKind.message (e : UnknownKind) : String :=
  "Unsupported route kind '" ++ e.key
    ++ "'. Supported: ['bottomSheet', 'dialog', 'page', 'tabHolder']"

/-- The description that a word and a result type select. -/
def RouteMeta.select (key : String) (generic : Option String) : Except UnknownKind RouteMeta :=
  match RouteKind.all.find? (·.key = key) with
  | some k => .ok (k.metaFor generic)
  | none => .error ⟨key⟩

end RouteGraft
