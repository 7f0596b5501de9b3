import RouteGraft.Json.Field
import RouteGraft.Route

/-!
# Descriptions of routes as objects

A description that is none of the four that come with the program is given as
an object.  Only the base class is required.
-/

namespace RouteGraft

/-- The description with the fields of an object, or everything that is wrong
with them. -/
def RouteMeta.ofMembers (ms : Json.Members) : Except (List FieldError) RouteMeta :=
  let typeName := ms.field "type_name" Json.text ""
  let baseClass := ms.requiredField "base_class" Json.text
  let generic := ms.field "generic" Json.text noResult
  let isInTab := ms.field "is_in_tab" Json.flag false
  match typeName, baseClass, generic, isInTab with
  | .ok typeName, .ok baseClass, .ok generic, .ok isInTab =>
      .ok ⟨typeName, baseClass, generic, isInTab⟩
  | _, _, _, _ =>
      .error (FieldError.ofOutcome typeName ++ FieldError.ofOutcome baseClass
        ++ FieldError.ofOutcome generic ++ FieldError.ofOutcome isInTab)

end RouteGraft
