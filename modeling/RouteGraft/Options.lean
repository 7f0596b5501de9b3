/-!
# Options of a command line

A word of a command line that starts with a hyphen gives options.  A word with
two hyphens is one option, spelled out.  A word with one hyphen is a *cluster*
of options of one letter each.  An option may take a value: behind an equals
sign if it is spelled out, right behind its letter if something is left there,
and otherwise the next word, whatever that looks like.

A word of two hyphens ends the options, and a single hyphen is no option.  Other
words are *operands*.  Options may stand between them, or the first one ends the
options.

An option that does not exist, lacks its value, or has one that it does not
take, makes the whole command line unusable, and nothing more is said about it.
-/

namespace RouteGraft.Options

/-- An option there is. -/
structure Rule (κ : Type) where
  /-- What it means. -/
  key : κ
  /-- How it is spelled, hyphens included. -/
  spellings : List String
  /-- Whether it takes a value. -/
  takesValue : Bool

/-- An option as it is given, with its value. -/
structure Given (κ : Type) where
  /-- What it means. -/
  key : κ
  /-- Its value.  An option that takes none has an empty one. -/
  value : String
  deriving DecidableEq, Repr

/-- What a command line gives: its options and its operands, in order. -/
structure Parsed (κ : Type) where
  /-- The options. -/
  options : List (Given κ)
  /-- The operands, and everything behind the end of the options. -/
  operands : List String
  deriving DecidableEq, Repr

variable {κ : Type}

/-- The option of a spelling. -/
def rule? (rules : List (Rule κ)) (spelling : List Char) : Option (Rule κ) :=
  rules.find? (·.spellings.any (·.toList = spelling))

/-- The options of one word, and the option whose value is the next word. -/
structure Word (κ : Type) where
  /-- The options that are complete. -/
  options : List (Given κ)
  /-- The option that lacks its value. -/
  open? : Option κ

/-- The options of a cluster, without its hyphen. -/
def cluster? (rules : List (Rule κ)) : List Char → Option (Word κ)
  | [] => some ⟨[], none⟩
  | c :: rest =>
      match rule? rules ['-', c] with
      | none => none
      | some r =>
          if r.takesValue then
            if rest.isEmpty then some ⟨[], some r.key⟩
            else some ⟨[⟨r.key, String.ofList rest⟩], none⟩
          else (cluster? rules rest).map fun w => { w with options := ⟨r.key, ""⟩ :: w.options }

/-- The options of a word that starts with a hyphen. -/
def word? (rules : List (Rule κ)) (w : List Char) : Option (Word κ) :=
  let name := w.takeWhile (· ≠ '=')
  let value := w.dropWhile (· ≠ '=')
  if w.take 2 = ['-', '-'] then
    match rule? rules name with
    | none => none
    | some r =>
        match r.takesValue, value with
        | true, [] => some ⟨[], some r.key⟩
        | true, _ :: v => some ⟨[⟨r.key, String.ofList v⟩], none⟩
        | false, [] => some ⟨[⟨r.key, ""⟩], none⟩
        | false, _ :: _ => none
  else cluster? rules (w.drop 1)

/-- Whether a word gives options. -/
def givesOptions (w : List Char) : Bool := w.head? = some '-' && 1 < w.length

/-- What words give.  `between` says whether options may stand between operands,
and `pending` is the option whose value is the next word. -/
def parseFrom (rules : List (Rule κ)) (between : Bool) (pending : Option κ) :
    List String → Option (Parsed κ)
  | [] => if pending.isSome then none else some ⟨[], []⟩
  | w :: rest =>
      match pending with
      | some key =>
          (parseFrom rules between none rest).map fun p =>
            { p with options := ⟨key, w⟩ :: p.options }
      | none =>
          if w.toList = ['-', '-'] then some ⟨[], rest⟩
          else if givesOptions w.toList then
            match word? rules w.toList with
            | none => none
            | some given =>
                (parseFrom rules between given.open? rest).map fun p =>
                  { p with options := given.options ++ p.options }
          else if between then
            (parseFrom rules between none rest).map fun p =>
              { p with operands := w :: p.operands }
          else some ⟨[], w :: rest⟩
termination_by structural words => words

/-- What a command line gives.  `between` says whether options may stand between
operands. -/
def parse? (rules : List (Rule κ)) (between : Bool) (words : List String) :
    Option (Parsed κ) :=
  parseFrom rules between none words

/-- Whether an option is given. -/
def Parsed.has [DecidableEq κ] (p : Parsed κ) (key : κ) : Bool :=
  p.options.any (·.key = key)

/-- The value of an option, which is the last one that is given. -/
def Parsed.value? [DecidableEq κ] (p : Parsed κ) (key : κ) : Option String :=
  (p.options.reverse.find? (·.key = key)).map (·.value)

/-! ## Examples -/

example : parse? [⟨0, ["--all", "-a"], false⟩, ⟨1, ["--name", "-n"], true⟩] true
    ["-an", "-x", "y", "--name=z"]
    = some ⟨[⟨0, ""⟩, ⟨1, "-x"⟩, ⟨1, "z"⟩], ["y"]⟩ := by decide

end RouteGraft.Options
