import Mathlib.Logic.Relation
import RouteGraft.Proofs.ConfigFields
import RouteGraft.Proofs.DocumentReading

/-!
# Verdicts on documents

What comes of a document depends on the supplies of the five fields and on nothing else
(`Config.read_document`).  Objects may be rearranged in three ways that keep every supply
(`Config.Rearrangement`): members of different keys change places, a member of a key that no
field has is left out, and so is a member that a later one of the same key makes up for.

This is true of the documents that are read.  A number that is too long stops the reader
wherever it stands, also under a key that no field has (`Config.read_numbered`).
-/

namespace RouteGraft.Config

open Json (Members Document TextTo Blanks ascii blanks_nil stringText_encode memberText_encode
  document_of_flat)
open Json.Reader (byte)

/-! ## Rearranged objects -/

/-- One step of rearranging an object. -/
inductive Rearrangement : Members → Members → Prop
  /-- Neighbours of different keys change places. -/
  | swap (front back : Members) {m m' : String × Json} :
      m.1 ≠ m'.1 → Rearrangement (front ++ m :: m' :: back) (front ++ m' :: m :: back)
  /-- A member is left out that no field knows. -/
  | unknown (front back : Members) {m : String × Json} :
      (∀ f : Field, m.1 ≠ f.key ∧ m.1 ≠ f.alternative) →
        Rearrangement (front ++ m :: back) (front ++ back)
  /-- A member is left out that a later one makes up for. -/
  | earlier (front middle back : Members) {m m' : String × Json} :
      m.1 = m'.1 →
        Rearrangement (front ++ m :: (middle ++ m' :: back)) (front ++ (middle ++ m' :: back))

/-- Objects that can be rearranged into each other. -/
abbrev Rearranged : Members → Members → Prop := Relation.EqvGen Rearrangement

theorem lastValue?_append (front back : Members) (key : String) :
    lastValue? (front ++ back) key = (lastValue? back key).or (lastValue? front key) := by
  rw [lastValue?, List.filter_append, List.getLast?_append, Option.map_or]
  rfl

theorem lastValue?_cons (m : String × Json) (ms : Members) (key : String) :
    lastValue? (m :: ms) key = (lastValue? ms key).or (if m.1 = key then some m.2 else none) := by
  have single : lastValue? [m] key = if m.1 = key then some m.2 else none := by
    by_cases same : m.1 = key
    · simp [lastValue?, same]
    · simp [lastValue?, same]
  rw [← single]
  exact lastValue?_append [m] ms key

/-- A rearrangement keeps the last value of every key that a field has. -/
theorem Rearrangement.lastValue? {ms ms' : Members} (h : Rearrangement ms ms') {key : String}
    {f : Field} (known : key = f.key ∨ key = f.alternative) :
    Config.lastValue? ms key = Config.lastValue? ms' key := by
  cases h with
  | @swap front back m m' differ =>
      simp only [lastValue?_append, lastValue?_cons]
      by_cases same : m.1 = key
      · have differ' : m'.1 ≠ key := fun same' => differ (same.trans same'.symm)
        simp [same, differ']
      · simp [same]
  | @unknown front back m other =>
      have differ : m.1 ≠ key := by
        rcases known with rfl | rfl
        · exact (other f).1
        · exact (other f).2
      simp [lastValue?_append, lastValue?_cons, differ]
  | @earlier front middle back m m' same =>
      simp only [lastValue?_append, lastValue?_cons, same]
      by_cases found : m'.1 = key
      · simp [found]
      · simp [found]

theorem Rearranged.supply {ms ms' : Members} (h : Rearranged ms ms') (f : Field) :
    f.supply ms = f.supply ms' := by
  induction h with
  | rel ms ms' step =>
      rw [Field.supply, Field.supply, step.lastValue? (f := f) (.inl rfl),
        step.lastValue? (f := f) (.inr rfl)]
  | refl ms => rfl
  | symm ms ms' _ ih => exact ih.symm
  | trans ms ms' ms'' _ _ ih ih' => exact ih.trans ih'

/-! ## What the verdict depends on -/

section Supplies

variable {ms ms' : Members} (same : ∀ f : Field, f.supply ms = f.supply ms')
include same

theorem GivenBy.of_supplies {c : Config} (h : c.GivenBy ms) : c.GivenBy ms' :=
  fun f => same f ▸ h f

theorem errors_of_supplies : errors ms = errors ms' :=
  List.filterMap_congr fun f _ => by rw [Field.error?, same f]; rfl

theorem Verdict.of_supplies {outcome : Except (List Fault) Config} (h : Verdict ms outcome) :
    Verdict ms' outcome := by
  cases h with
  | accepted given usable => exact .accepted (given.of_supplies same) usable
  | unusable given unusable => exact .unusable (given.of_supplies same) unusable
  | invalid wrong =>
      rw [errors_of_supplies same] at wrong ⊢
      exact .invalid wrong

end Supplies

/-! ## Documents -/

/-- The lines of a refusal: one for each field that is wrong, and one for the service if no
field is. -/
def complaints (ms : Members) : List String :=
  if errors ms = [] then
    ["config: Value error, servicePath and serviceImplPath are required when addToService is true"]
  else (errors ms).map fun e => e.key ++ ": " ++ e.fault.message

theorem Verdict.message {ms : Members} {faults : List Fault} (h : Verdict ms (.error faults))
    (source : String) :
    (Refusal.invalid faults).message source
      = "Invalid config " ++ source ++ ": " ++ String.intercalate "; " (complaints ms) := by
  have lines : faults.map Fault.line = complaints ms := by
    cases h with
    | unusable given _ => exact (if_pos given.errors).symm
    | invalid wrong =>
        rw [complaints, if_neg wrong, List.map_map]
        rfl
  rw [← lines]
  rfl

/-- What comes of the document of an object. -/
theorem read_eq_of_document {ms : Members} {s : Bytes}
    (h : Document Json.Reader.maxDigits (.object ms) s) :
    Config.read s = (ofJson (.object ms)).mapError .invalid := by
  rw [Config.read, Json.read_of_document (Nat.le_refl Json.Reader.maxDigits) h]
  simp only
  cases ofJson (.object ms) with
  | ok c => rfl
  | error faults => rfl

/-- A document of an object, with numbers that are not too long, is given the verdict on the
object, and its refusal has a line for each complaint.  Any document of an object with the
same supplies comes to the same, and so does one of a rearranged object. -/
theorem read_document {ms : Members} {s : Bytes}
    (h : Document Json.Reader.maxDigits (.object ms) s) :
    (∃ outcome, Verdict ms outcome ∧ Config.read s = outcome.mapError .invalid) ∧
      (∀ source refusal, Config.read s = .error refusal →
        refusal.message source
          = "Invalid config " ++ source ++ ": " ++ String.intercalate "; " (complaints ms)) ∧
        ∀ {ms' : Members} {s' : Bytes}, Document Json.Reader.maxDigits (.object ms') s' →
          (∀ f : Field, f.supply ms = f.supply ms') ∨ Rearranged ms ms' →
            Config.read s' = Config.read s := by
  have verdict := ofJson_verdict ms
  refine ⟨⟨_, verdict, read_eq_of_document h⟩, fun source refusal refused => ?_,
    fun {ms' s'} h' kept => ?_⟩
  · rw [read_eq_of_document h] at refused
    cases outcome : ofJson (.object ms) with
    | ok c =>
        rw [outcome] at refused
        cases refused
    | error faults =>
        rw [outcome] at refused verdict
        cases refused
        exact verdict.message source
  · have same : ∀ f : Field, f.supply ms = f.supply ms' := by
      rcases kept with same | rearranged
      · exact same
      · exact rearranged.supply
    rw [read_eq_of_document h, read_eq_of_document h',
      (verdict.of_supplies same).unique (ofJson_verdict ms')]

/-- An object whose path of routes is wrong under its first key and right under its second. -/
def wrongRoutes : Members := [("routesPath", .null), ("routes_path", .string "r")]

/-- A document of it. -/
def wrongRoutesText : Bytes := ascii "\x7b\"routesPath\":null,\"routes_path\":\"r\"\x7d"

/-- The same with a key that no field has, and the first key behind the second and twice. -/
def wrongRoutesTwice : Members :=
  [("x", .array []), ("routes_path", .string "r"), ("routesPath", .bool true),
    ("routesPath", .null)]

/-- A document of it. -/
def wrongRoutesTwiceText : Bytes :=
  ascii " \x7b\"x\":[ ],\t\"routes_path\":\"r\" ,\"routesPath\":true,\"routesPath\":null\x7d"

theorem rearranged_wrongRoutes : Rearranged wrongRoutes wrongRoutesTwice := by
  have swapped : Rearrangement wrongRoutes [("routes_path", .string "r"), ("routesPath", .null)] :=
    .swap [] [] (by decide)
  have once : Rearrangement
      [("routes_path", .string "r"), ("routesPath", .bool true), ("routesPath", .null)]
      [("routes_path", .string "r"), ("routesPath", .null)] :=
    .earlier [("routes_path", .string "r")] [] [] rfl
  have known : Rearrangement wrongRoutesTwice
      [("routes_path", .string "r"), ("routesPath", .bool true), ("routesPath", .null)] :=
    .unknown [] _ fun f => by
      cases f
      all_goals decide
  exact .trans _ _ _ (.rel _ _ swapped)
    (.symm _ _ (.trans _ _ _ (.rel _ _ known) (.rel _ _ once)))

/-- The first key counts, and both documents are refused in the same way. -/
theorem read_document_wrongRoutes :
    Document Json.Reader.maxDigits (.object wrongRoutes) wrongRoutesText ∧
      Document Json.Reader.maxDigits (.object wrongRoutesTwice) wrongRoutesTwiceText ∧
      Rearranged wrongRoutes wrongRoutesTwice ∧
      (∃ outcome, Verdict wrongRoutes outcome ∧
        Config.read wrongRoutesText = outcome.mapError .invalid) ∧
      complaints wrongRoutes
        = ["routesPath: Input should be a valid string", "routeMapperPath: Field required",
            "addToService: Field required"] ∧
      Config.read wrongRoutesTwiceText = Config.read wrongRoutesText := by
  have space : Blanks (ascii " ") := Json.blanks_of_all rfl
  have tab : Blanks (ascii "\t") := Json.blanks_of_all rfl
  have nothing : TextTo Json.Reader.maxDigits 0 .null _ := .null
  have flag : TextTo Json.Reader.maxDigits 0 (.bool true) _ := .true
  have empty : TextTo Json.Reader.maxDigits 0 (.array []) _ := .emptyArray space
  have path : TextTo Json.Reader.maxDigits 0 (.string "r") _ :=
    .string (stringText_encode "r" rfl)
  have document : Document Json.Reader.maxDigits (.object wrongRoutes) wrongRoutesText :=
    document_of_flat blanks_nil
      (.cons blanks_nil (memberText_encode "routesPath" rfl nothing) blanks_nil
        (.one blanks_nil (memberText_encode "routes_path" rfl path) blanks_nil))
      blanks_nil
  have document' : Document Json.Reader.maxDigits (.object wrongRoutesTwice) wrongRoutesTwiceText :=
    document_of_flat space
      (.cons blanks_nil (memberText_encode "x" rfl empty) blanks_nil
        (.cons tab (memberText_encode "routes_path" rfl path) space
          (.cons blanks_nil (memberText_encode "routesPath" rfl flag) blanks_nil
            (.one blanks_nil (memberText_encode "routesPath" rfl nothing)
              blanks_nil))))
      blanks_nil
  obtain ⟨verdict, -, same⟩ := read_document document
  exact ⟨document, document', rearranged_wrongRoutes, verdict, by decide,
    same document' (.inr rearranged_wrongRoutes)⟩

/-! ## Documents that are not read -/

/-- A configuration and a number under a key that no field has. -/
def numbered (digits : Bytes) : Members :=
  [("x", .number (.integer (Json.Reader.digitsValue digits))), ("routesPath", .string "r"),
    ("routeMapperPath", .string "m"), ("addToService", .bool false)]

/-- What stands behind the number in a document. -/
def numberedRest : Bytes :=
  ascii ",\"routesPath\":\"r\",\"routeMapperPath\":\"m\",\"addToService\":false\x7d"

/-- A document of it. -/
def numberedText (digits : Bytes) : Bytes := ascii "\x7b\"x\":" ++ (digits ++ numberedRest)

theorem document_numbered {digits : Bytes} (whole : Json.WholeDigits digits) :
    Document digits.length (.object (numbered digits)) (numberedText digits) := by
  have path (s : String) (plain : s.toList.all Json.isUnescaped = true) :
      TextTo digits.length 0 (.string s) _ :=
    .string (stringText_encode s plain)
  have flag : TextTo digits.length 0 (.bool false) _ := .false
  have number : TextTo digits.length 0
      (.number (.integer (Json.Reader.digitsValue digits))) digits :=
    .number (@Json.NumberText.integer _ false _ whole (Nat.le_refl _))
  have document := document_of_flat blanks_nil
    (.cons blanks_nil (memberText_encode "x" rfl number) blanks_nil
      (.cons blanks_nil
        (memberText_encode "routesPath" rfl (path "r" rfl)) blanks_nil
        (.cons blanks_nil
          (memberText_encode "routeMapperPath" rfl (path "m" rfl))
          blanks_nil
          (.one blanks_nil (memberText_encode "addToService" rfl flag)
            blanks_nil))))
    blanks_nil
  simp only [List.nil_append, List.append_nil, List.append_assoc, List.cons_append] at document
  exact document

/-- A number under a key that no field has keeps a configuration from being read if it is too
long. -/
theorem read_numbered {digits : Bytes} (whole : Json.WholeDigits digits)
    (long : Json.Reader.maxDigits < digits.length) :
    ∃ e, Config.read (numberedText digits) = .error (.malformed e) := by
  have ends : Json.EndsDigits numberedRest := Json.endsDigits_cons rfl
  have number := Json.unsignedNumber_tooLong whole long ends
  obtain ⟨b, more, split, digit⟩ := whole.1.exists_cons
  have first : digits ++ numberedRest = b :: (more ++ numberedRest) := by
    rw [split, List.cons_append]
  have starts : Json.Starts (digits ++ numberedRest) :=
    first ▸ Json.starts_unsigned (.inl digit)
  have value (depth : Nat) : ∃ stop,
      Json.Reader.valueTo (depth + 1) (digits ++ numberedRest) = .error stop := by
    rw [first] at number ⊢
    exact ⟨_, (Json.valueWith_unsigned (.inl digit)).trans (congrArg (Except.map _) number)⟩
  -- The values of the object are read one level below the deepest.
  obtain ⟨stop, refused⟩ := value (Json.Reader.maxDepth - 2)
  have key : Json.StringText "x" (ascii "\"x\"") := stringText_encode "x" rfl
  have object := Json.object_first_error key starts refused
  have document : Json.Reader.document (numberedText digits) = .error stop :=
    congrArg (bind · _) object
  exact ⟨⟨stop.1, .ofRest (numberedText digits) stop.2⟩, by rw [Config.read, Json.read, document]⟩

/-- More digits than the reader takes, by one. -/
def nines : Bytes := List.replicate (Json.Reader.maxDigits + 1) (byte '9')

theorem wholeDigits_nines : Json.WholeDigits nines := by
  have all : ∀ b ∈ nines, b = byte '9' := fun b hb => List.eq_of_mem_replicate hb
  refine ⟨⟨nofun, fun b hb => ?_⟩, nofun⟩
  rw [all b hb]
  rfl

/-- A document with half a surrogate pair under a key that no field has. -/
def halfPairText : Bytes := ascii "\x7b\"x\":\"\\ude00\"" ++ numberedRest

/-- A document whose object is a configuration may have a number under a key that no field
has.  If the number is too long, nothing comes of the verdict.  Half a surrogate pair has the
same effect. -/
theorem read_numbered_nines :
    Document (Json.Reader.maxDigits + 1) (.object (numbered nines)) (numberedText nines) ∧
      Verdict (numbered nines) (.ok ⟨"r", "m", none, none, false⟩) ∧
      (¬ ∃ outcome, Verdict (numbered nines) outcome ∧
        Config.read (numberedText nines) = outcome.mapError .invalid) ∧
      Config.read halfPairText = .error (.malformed ⟨.loneSurrogate, ⟨1, 12⟩⟩) := by
  have length : nines.length = Json.Reader.maxDigits + 1 := List.length_replicate
  have document := document_numbered wholeDigits_nines
  rw [length] at document
  have verdict : Verdict (numbered nines) (.ok ⟨"r", "m", none, none, false⟩) := by
    refine .accepted (fun f => ?_) nofun
    cases f with
    | routesPath => rfl
    | routeMapperPath => rfl
    | servicePath => exact .absent
    | serviceImplPath => exact .absent
    | addToService => exact ⟨.bool false, rfl, .bool⟩
  refine ⟨document, verdict, ?_, by decide +kernel⟩
  rintro ⟨outcome, -, same⟩
  obtain ⟨e, refused⟩ := read_numbered wholeDigits_nines (by rw [length]; exact Nat.lt_succ_self _)
  have apart := refused.symm.trans same
  cases outcome with
  | ok c => cases apart
  | error faults => cases apart

end RouteGraft.Config
