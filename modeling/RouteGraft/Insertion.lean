import RouteGraft.Anchor
import RouteGraft.Log
import RouteGraft.Outline.Read
import RouteGraft.Splice

/-!
# Insertions

An insertion is a fragment and the kind of place it goes to.  The outline of
the source decides on the place (`Insertion.plan`), which gives an *edit*: an
offset, the fragment with what separates it from its neighbours, and an entry
for the log.  Applying the edit is a single splice.

* The class of a route goes behind its anchor, after a blank line.
* A member goes right in front of the closing brace of its anchor, on lines of
  its own.
* The entry of a mapper goes to the end of the list that holds the routes of its
  kind.  That is the list in the first call of a mapper of this kind in the
  routers of the anchor.  If there is none, a section of its own goes to the
  end of the routers themselves.

At the end of a list a fragment brings its own comma.  Behind a comma, and in an
empty list, it goes right in front of the closing bracket.  Behind an element
without a comma it needs a comma in front as well and goes right behind that
element, so that a comment behind the element stays where it is.
-/

namespace RouteGraft

/-! ## Names to look for -/

/-- The names in the sources of an application by which places are found. -/
structure Names where
  /-- The interface of the navigation service. -/
  serviceName : String := "MadNavigationService"
  /-- The interface of the navigation service inside tabs. -/
  tabServiceName : String := "MadTabNavigationService"
  /-- The base class of route mappers. -/
  routeMapperName : String := "MadRouteMapper"
  /-- The member of a mapper that lists its routers. -/
  routersMethod : String := "routers"
  /-- The argument of a router that lists its routes. -/
  routesArgument : String := "routes"
  /-- What the name of a service has behind it in the name of its base class. -/
  implSuffix : String := "Impl"
  deriving DecidableEq, Repr

/-- The interfaces of the services. -/
def Names.serviceInterfaces (n : Names) : List String := [n.serviceName, n.tabServiceName]

/-- The base classes of the services. -/
def Names.serviceImplClasses (n : Names) : List String :=
  [n.serviceName ++ n.implSuffix, n.tabServiceName ++ n.implSuffix]

/-! ## Errors -/

/-- Why there is no place for a fragment. -/
inductive NoPlace where
  /-- No class extends the base class of the route. -/
  | route
  /-- No class is a route mapper. -/
  | mapper
  /-- The routers of the mapper are not a list behind an arrow. -/
  | routers
  /-- No class is a navigation service. -/
  | service
  deriving DecidableEq, Repr

/-- The name of the error. -/
def NoPlace.name : NoPlace → String
  | .route => "RouteInsertionError"
  | .mapper => "MapperNotFoundError"
  | .routers => "RoutersMethodInvalidError"
  | .service => "ServiceInsertionError"

/-- The wording of the refusal, for the source at `path`. -/
def NoPlace.message (path : String) : NoPlace → String
  | .route => "Can't insert new page in " ++ path
  | .mapper => "Can't find or insert page mapper in " ++ path
  | .routers => "Invalid 'routers' method body structure in " ++ path
  | .service => "Can't insert new method in " ++ path

/-- Why an insertion fails. -/
inductive InsertionError where
  /-- The source at `path` has no place for it. -/
  | noPlace (reason : NoPlace) (path : String)
  /-- The place is outside of the source. -/
  | outside (e : OffsetOutside)
  /-- The source has a name that cannot be decoded. -/
  | undecodable (e : Utf8.DecodeError)
  deriving DecidableEq, Repr

/-- The wording of the error. -/
def InsertionError.message : InsertionError → String
  | .noPlace reason path => reason.message path
  | .outside e => e.message
  | .undecodable e => e.message

/-! ## Edits -/

/-- One text to put in at one offset. -/
structure Edit where
  /-- Where it goes. -/
  offset : Int
  /-- The text. -/
  text : String
  /-- What the log says of it. -/
  note : String
  deriving DecidableEq, Repr

/-- The content after an edit. -/
def Edit.apply (e : Edit) (content : Bytes) : Except OffsetOutside Bytes :=
  splice content e.offset (Utf8.encode e.text)

/-- A fragment at the end of a list: where it goes, and the text. -/
def ListLiteral.append (list : ListLiteral) (fragment : String) : Int × String :=
  match list.elements.getLast? with
  | none => (list.rightBracket, fragment ++ "\n")
  | some last =>
      if list.hasTrailingComma then (list.rightBracket, fragment ++ "\n")
      else (last.span.stop, ", " ++ fragment)

/-- At the end of a list a fragment gets a line break behind it or a comma in
front of it. -/
theorem ListLiteral.append_text (list : ListLiteral) (fragment : String) :
    (list.append fragment).2 = fragment ++ "\n" ∨ (list.append fragment).2 = ", " ++ fragment := by
  unfold append
  split
  · exact .inl rfl
  · split
    · exact .inl rfl
    · exact .inr rfl

/-- Where there is no element, and behind a comma, a fragment goes to the closing bracket. -/
theorem ListLiteral.append_atBracket {list : ListLiteral}
    (h : list.elements = [] ∨ list.hasTrailingComma = true) (fragment : String) :
    list.append fragment = (list.rightBracket, fragment ++ "\n") := by
  unfold append
  split
  · rfl
  · next last isLast =>
      rcases h with none | comma
      · rw [none] at isLast
        cases isLast
      · rw [if_pos comma]

/-- Everywhere else it goes behind the last element. -/
theorem ListLiteral.append_behindElement {list : ListLiteral} {last : ListElement}
    (isLast : list.elements.getLast? = some last) (open_ : list.hasTrailingComma = false)
    (fragment : String) : list.append fragment = (last.span.stop, ", " ++ fragment) := by
  simp [append, isLast, open_]

/-! ## Insertions -/

/-- A fragment and the kind of place it goes to. -/
inductive Insertion where
  /-- The class of a route, behind the last class that extends `baseClass`. -/
  | routeClass (fragment baseClass : String)
  /-- A member of the last class that passes a test. -/
  | member (fragment : String) (test : ClassTest)
  /-- A member of the interface of the navigation service. -/
  | serviceMethod (fragment : String)
  /-- A member of the class of the navigation service. -/
  | serviceImplMethod (fragment : String)
  /-- An entry of the mappers of a kind of route, or a section with the entry. -/
  | mapperEntry (addition entry typeName : String)

/-- The list of routes of a call, if the call is a mapper of a kind of route. -/
def routesOf? (names : Names) (typeName : String) (e : ListElement) :
    Option (String × ListLiteral) :=
  match e.callee with
  | none => none
  | some callee =>
      if Text.startsWith typeName callee then
        (e.namedArguments.findSome? fun a =>
          if a.name = names.routesArgument then a.value else none).map (callee, ·)
      else none

namespace Insertion

/-- A member in front of the closing brace of its anchor. -/
def planMember (fragment : String) (test : ClassTest) (path : String) (o : Outline) :
    Except NoPlace Edit :=
  match o.anchor? test with
  | none => .error .service
  | some c =>
      .ok ⟨c.closingBrace, "\n" ++ fragment ++ "\n",
        "Inserting member into " ++ c.name ++ " at byte " ++ toString c.closingBrace
          ++ " of " ++ path⟩

/-- The class of a route behind its anchor. -/
def planRouteClass (fragment baseClass path : String) (o : Outline) : Except NoPlace Edit :=
  match o.anchor? (.extendsText baseClass) with
  | none => .error .route
  | some c =>
      .ok ⟨c.span.stop, "\n\n" ++ fragment,
        "Inserting route class after " ++ c.name ++ " at byte " ++ toString c.span.stop
          ++ " of " ++ path⟩

/-- An entry at the end of the routes of its kind, or its section at the end of
the routers. -/
def planMapperEntry (names : Names) (addition entry typeName path : String) (o : Outline) :
    Except NoPlace Edit :=
  match o.anchor? (.extendsText names.routeMapperName) with
  | none => .error .mapper
  | some c =>
      match c.returnedList? names.routersMethod with
      | none => .error .routers
      | some routers =>
          match routers.elements.findSome? (routesOf? names typeName) with
          | some (callee, routes) =>
              let (offset, text) := routes.append entry
              .ok ⟨offset, text,
                "Appending builder to " ++ callee ++ "." ++ names.routesArgument
                  ++ " in " ++ path⟩
          | none =>
              let (offset, text) := routers.append addition
              .ok ⟨offset, text,
                "No " ++ typeName ++ " mapper in " ++ path ++ ", appending a new section"⟩

/-- The edit that makes an insertion in the source at `path`. -/
def plan (names : Names) (path : String) (o : Outline) : Insertion → Except NoPlace Edit
  | routeClass fragment baseClass => planRouteClass fragment baseClass path o
  | member fragment test => planMember fragment test path o
  | serviceMethod fragment =>
      planMember fragment (.implementsAny names.serviceInterfaces) path o
  | serviceImplMethod fragment =>
      planMember fragment (.extendsOneOf names.serviceImplClasses) path o
  | mapperEntry addition entry typeName => planMapperEntry names addition entry typeName path o

end Insertion

/-! ## Inserting -/

/-- Draws up the outline of a source. -/
abbrev Outliner := Bytes → Outline.Reading Outline

/-- The content after an insertion, with what the log says of it.  The log
tells of the place before anything is put in there. -/
def insert (outliner : Outliner) (names : Names) (path : String) (i : Insertion)
    (content : Bytes) : Log × Except InsertionError Bytes :=
  match outliner content with
  | .error e => ([], .error (.undecodable e))
  | .ok o =>
      match i.plan names path o with
      | .error reason => ([], .error (.noPlace reason path))
      | .ok edit =>
          ([.debug edit.note],
            match edit.apply content with
            | .ok result => .ok result
            | .error e => .error (.outside e))

/-- An insertion succeeds if there is an outline, a place, and the place is
inside of the content. -/
theorem insert_eq_ok {outliner : Outliner} {names : Names} {path : String} {i : Insertion}
    {content result : Bytes} :
    (insert outliner names path i content).2 = .ok result ↔
      ∃ o edit, outliner content = .ok o ∧ i.plan names path o = .ok edit ∧
        edit.apply content = .ok result := by
  unfold insert
  cases outliner content with
  | error e => simp
  | ok o =>
      cases planned : i.plan names path o with
      | error reason => simp [planned]
      | ok edit => cases applied : edit.apply content <;> simp [planned, applied]

/-- An insertion is refused for its place only if the place lies outside of the
content. -/
theorem insert_eq_outside {outliner : Outliner} {names : Names} {path : String} {i : Insertion}
    {content : Bytes} {e : OffsetOutside} :
    (insert outliner names path i content).2 = .error (.outside e) ↔
      ∃ o edit, outliner content = .ok o ∧ i.plan names path o = .ok edit ∧
        edit.apply content = .error e := by
  unfold insert
  cases outliner content with
  | error e => simp
  | ok o =>
      cases planned : i.plan names path o with
      | error reason => simp [planned]
      | ok edit => cases applied : edit.apply content <;> simp [planned, applied]

end RouteGraft
