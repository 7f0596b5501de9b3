import RouteGraft.Json.Field
import RouteGraft.Json.Read

/-!
# Configurations

A configuration says where the sources of an application are: the file with its
routes, the file with the route mapper, and the two files with the interface and
the class of the navigation service.  The last two are needed only if methods
are to be added to the service.

It is read off an object.  Every field has two keys: `routesPath` is tried
first, and `routes_path` only if there is no member of the first key at all.  A
field that is wrong is reported under the key it was found by, and a missing one
under the first key.  Other members do not matter.

That the service has both its paths is checked last, on a configuration whose
fields are all right.
-/

namespace RouteGraft

/-- Where the sources of an application are. -/
structure Config where
  /-- The file with the classes of routes. -/
  routesPath : String
  /-- The file with the route mapper. -/
  routeMapperPath : String
  /-- The file with the interface of the navigation service. -/
  servicePath : Option String := none
  /-- The file with the class of the navigation service. -/
  serviceImplPath : Option String := none
  /-- Whether methods are added to the service. -/
  addToService : Bool
  deriving DecidableEq, Repr

namespace Config

/-! ## Errors -/

/-- What is wrong with an object that should be a configuration. -/
inductive Fault where
  /-- A field is missing or wrong. -/
  | field (e : FieldError)
  /-- The value is no object. -/
  | notObject
  /-- Methods are to be added to a service that lacks a path. -/
  | servicePaths
  deriving DecidableEq, Repr

/-- The wording of a fault. -/
def Fault.message : Fault → String
  | .field e => e.fault.message
  | .notObject => "Input should be an object"
  | .servicePaths =>
      "Value error, servicePath and serviceImplPath are required when addToService is true"

/-- The key of the field that a fault is about, if it is about one. -/
def Fault.key? : Fault → Option String
  | .field e => some e.key
  | _ => none

/-- A fault with its key in front, and with the word `config` if it has none. -/
def Fault.line (f : Fault) : String := f.key?.getD "config" ++ ": " ++ f.message

/-- Why a document is no configuration. -/
inductive Refusal where
  /-- It cannot be read. -/
  | malformed (e : Json.ReadError)
  /-- Something is wrong with its value. -/
  | invalid (faults : List Fault)
  deriving DecidableEq, Repr

/-- The wording of a refusal, for a document from `source`. -/
def Refusal.message (source : String) : Refusal → String
  | .malformed e => "Invalid config " ++ source ++ ": config: Invalid JSON: " ++ e.message
  | .invalid faults =>
      "Invalid config " ++ source ++ ": " ++ String.intercalate "; " (faults.map Fault.line)

/-! ## Fields -/

/-- The first of two keys that an object has, or the first of them. -/
def keyIn (ms : Json.Members) (key alternative : String) : String :=
  if (ms.lookup? key).isNone && (ms.lookup? alternative).isSome then alternative else key

/-- Whether both paths of the service are there and not empty. -/
def hasService (c : Config) : Bool :=
  c.servicePath.any (· ≠ "") && c.serviceImplPath.any (· ≠ "")

/-- The configuration with the fields of an object, or everything that is wrong
with them. -/
def fieldsOf (ms : Json.Members) : Except (List FieldError) Config :=
  let required {α : Type} (key alternative : String) (read : Json → Except FieldFault α) :=
    ms.requiredField (keyIn ms key alternative) read
  let path (key alternative : String) :=
    ms.field (keyIn ms key alternative) Json.textOrNull none
  let routesPath := required "routesPath" "routes_path" Json.text
  let routeMapperPath := required "routeMapperPath" "route_mapper_path" Json.text
  let servicePath := path "servicePath" "service_path"
  let serviceImplPath := path "serviceImplPath" "service_impl_path"
  let addToService := required "addToService" "add_to_service" Json.flag
  match routesPath, routeMapperPath, servicePath, serviceImplPath, addToService with
  | .ok routes, .ok mapper, .ok service, .ok serviceImpl, .ok add =>
      .ok ⟨routes, mapper, service, serviceImpl, add⟩
  | _, _, _, _, _ =>
      .error (FieldError.ofOutcome routesPath ++ FieldError.ofOutcome routeMapperPath
        ++ FieldError.ofOutcome servicePath ++ FieldError.ofOutcome serviceImplPath
        ++ FieldError.ofOutcome addToService)

/-! ## Reading -/

/-- The configuration that a value describes. -/
def ofJson : Json → Except (List Fault) Config
  | .object ms =>
      match fieldsOf ms with
      | .error es => .error (es.map .field)
      | .ok c => if c.addToService && !c.hasService then .error [.servicePaths] else .ok c
  | _ => .error [.notObject]

/-- The configuration in a document. -/
def read (document : Bytes) : Except Refusal Config :=
  match Json.read document with
  | .error e => .error (.malformed e)
  | .ok v =>
      match ofJson v with
      | .error faults => .error (.invalid faults)
      | .ok c => .ok c

/-- A configuration that was read has both paths of the service if it needs
them. -/
theorem hasService_of_ofJson {v : Json} {c : Config} (h : ofJson v = .ok c)
    (hadd : c.addToService = true) : c.hasService = true := by
  unfold ofJson at h
  split at h
  · split at h
    · cases h
    · split at h
      · cases h
      · next hc => cases h; simpa [hadd] using hc
  · cases h

end Config

end RouteGraft
