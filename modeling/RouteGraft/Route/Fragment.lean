import RouteGraft.Route

/-!
# Fragments of Dart

Adding a route writes up to five fragments into the sources of an application:
its class, the abstract and the concrete method that open it, and its entry in
the route mapper, alone or in a section of its own.  Each is a text with the
names of the route put in.  The names are put in as they are: nothing is
escaped and nothing in them is read as a placeholder.

A fragment is one line or keeps its own line breaks; the blank line or the
comma around it is up to the place where it goes.
-/

namespace RouteGraft.Fragment

/-- The class of a route: it extends the base class of its kind at the result
type and hands its address to the base class. -/
def routeClass (m : RouteMeta) (name : String) : String :=
  "class " ++ m.className name ++ " extends " ++ m.baseClass ++ "<" ++ m.generic ++ "> \x7b\n"
    ++ "  " ++ m.className name ++ "() : super('" ++ Naming.kebab name ++ "');\n"
    ++ "\x7d"

/-- The name of the method that opens a route. -/
def methodName (m : RouteMeta) (name : String) : String := "open" ++ m.className name

/-- The abstract method that opens a route. -/
def abstractMethod (m : RouteMeta) (method : String) : String :=
  "  Future<" ++ m.resultType ++ "> " ++ method ++ "();"

/-- The concrete method that opens a route.  A route inside a tab is pushed
onto the current tab and every other one onto the root. -/
def concreteMethod (m : RouteMeta) (method name : String) : String :=
  "  @override\n"
    ++ "  Future<" ++ m.resultType ++ "> " ++ method ++ "() => "
    ++ (if m.isInTab then "pushToCurrentTab" else "pushToRoot")
    ++ "(" ++ m.className name ++ "());"

/-- The entry of a route in the list of a mapper.  Without a component to show
the builder has no body. -/
def mapperEntry (m : RouteMeta) (name : String) (ui : Option String) : String :=
  "MadRouteBuilder<" ++ m.className name ++ ">((_) => " ++ ui.getD "" ++ "),"

/-- A mapper section of its own for a route. -/
def mapperSection (m : RouteMeta) (name : String) (ui : Option String) : String :=
  m.typeName ++ "Mapper(\n"
    ++ "      routes: <MadRouteBuilder<" ++ m.baseClass ++ "<dynamic>>>[\n"
    ++ "        " ++ mapperEntry m name ui ++ "\n"
    ++ "      ],\n"
    ++ "    ),"

end RouteGraft.Fragment
