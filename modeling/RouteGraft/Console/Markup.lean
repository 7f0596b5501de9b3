import RouteGraft.Console.Emoji
import RouteGraft.Console.Literal
import RouteGraft.Console.Style

/-!
# Markup

Lines for the console may have markup in them: a tag in square brackets starts a
style and a tag with a slash ends it.  Only the text is kept here.  What matters
is which brackets are tags, for these are not shown, and whether every end has
a start, for an end without one is an error.

A tag starts with a small letter, `#`, `@` or a slash right behind its opening
bracket and goes to the next closing bracket, with no opening bracket in
between.  Of the backslashes in front of a tag every two are one, and one that
is left over makes the tag a text.  Everywhere else a backslash in front of an
opening bracket is not shown.  Emoji are put in between the tags.

A start and an end belong together if they name the same style
(`Style.normalForm`).  Two more things can go wrong.  A tag with `@` names a
handler, whose parameters have to be a literal when it ends.  And a colour may
lack the digits of a component.
-/

namespace RouteGraft.Console.Markup

/-! ## Tags -/

/-- What is between the brackets of a tag: a name and, behind the first equals
sign, parameters. -/
structure Tag where
  /-- The name. -/
  name : List Char
  /-- The parameters. -/
  parameters : Option (List Char)
  deriving DecidableEq, Repr

namespace Tag

/-- The tag with a text between its brackets. -/
def ofText (inside : List Char) : Tag :=
  let name := inside.takeWhile (· ≠ '=')
  match inside.dropWhile (· ≠ '=') with
  | [] => ⟨name, none⟩
  | _ :: parameters => ⟨name, some parameters⟩

/-- A tag as it is written. -/
def text (t : Tag) : List Char :=
  match t.parameters with
  | none => '[' :: t.name ++ [']']
  | some ps => '[' :: t.name ++ '=' :: ps ++ [']']

/-- The words of the style that a tag starts. -/
def style (t : Tag) : List Char :=
  match t.parameters with
  | none => t.name
  | some ps => t.name ++ ' ' :: ps

end Tag

/-- Whether a tag may start with a character. -/
def startsTag (c : Char) : Bool := ('a' ≤ c && c ≤ 'z') || c = '#' || c = '/' || c = '@'

/-- The text between the brackets of the tag at the start of a text. -/
def tagInside? : List Char → Option (List Char)
  | '[' :: c :: rest =>
      let more := rest.takeWhile fun c => c ≠ ']' && c ≠ '['
      if startsTag c && (rest.drop more.length).head? = some ']' then some (c :: more) else none
  | _ => none

/-! ## Pieces -/

/-- A piece of a text with markup. -/
inductive Piece where
  /-- A text. -/
  | text (cs : List Char)
  /-- What backslashes in front of a tag make of it. -/
  | escaped (cs : List Char)
  /-- A tag and the position it is reported at. -/
  | tag (position : Nat) (t : Tag)
  deriving DecidableEq, Repr

/-- The pieces of a tag with backslashes in front that ends up at `position`. -/
def tagPieces (position backslashes : Nat) (inside : List Char) : List Piece :=
  let pairs := backslashes / 2
  let shown := if pairs = 0 then [] else [.escaped (List.replicate pairs '\\')]
  if backslashes % 2 = 1 then shown ++ [.escaped ('[' :: inside ++ [']'])]
  else shown ++ [.tag (position + pairs * 2) (Tag.ofText inside)]

/-- A character in front of some pieces. -/
def addChar (c : Char) : List Piece → List Piece
  | .text cs :: rest => .text (c :: cs) :: rest
  | ps => .text [c] :: ps

/-- The pieces of a text at a position.  `skip` counts the characters of the
last tag that are still to come. -/
def piecesFrom (position skip : Nat) : List Char → List Piece
  | [] => []
  | c :: rest =>
      match skip with
      | skip + 1 => piecesFrom (position + 1) skip rest
      | 0 =>
          let backslashes := ((c :: rest).takeWhile (· = '\\')).length
          match tagInside? ((c :: rest).drop backslashes) with
          | some inside =>
              tagPieces position backslashes inside
                ++ piecesFrom (position + 1) (backslashes + inside.length + 1) rest
          | none => addChar c (piecesFrom (position + 1) 0 rest)
termination_by structural cs => cs

/-- A text without the backslashes in front of opening brackets. -/
def unescape : List Char → List Char
  | [] => []
  | c :: rest =>
      if c = '\\' ∧ rest.head? = some '[' then unescape rest else c :: unescape rest

/-! ## Errors -/

/-- What is wrong with a text with markup. -/
inductive Error where
  /-- The end of a style that is not open. -/
  | unmatched (position : Nat) (t : Tag)
  /-- The end of the last style where none is open. -/
  | nothingOpen (position : Nat)
  /-- Parameters of a handler, and the part of them that should be a literal. -/
  | parameters (literal parameters : List Char) (fault : Literal.Fault)
  /-- A style that cannot be read. -/
  | style (fault : StyleFault)
  deriving DecidableEq, Repr

/-- The wording of the error. -/
def Error.message : Error → String
  | .unmatched position t =>
      "closing tag '" ++ String.ofList t.text ++ "' at position " ++ toString position
        ++ " doesn't match any open tag"
  | .nothingOpen position =>
      "closing tag '[/]' at position " ++ toString position ++ " has nothing to close"
  | .parameters literal ps fault =>
      let shown :=
        if fault.isOfText then Text.Quoted.encode (String.ofList literal) ++ " in " else ""
      "error parsing " ++ shown ++ Text.Quoted.encode (String.ofList ps) ++ "; " ++ fault.message
  | .style fault => fault.message

/-! ## Handlers -/

/-- The part of a handler's parameters that should be a literal.  The name of a
handler may stand in front, and a name alone stands for no values. -/
def handlerLiteral (parameters : List Char) : List Char :=
  let given := Text.trim parameters
  let values := given.dropWhile fun c => Text.isNameChar c || c = '.'
  if values = [] then ['(', ')']
  else if values.head? = some '(' && values.getLast? = some ')' && !values.contains '\n' then
    values
  else given

/-- What is wrong with the tag of a handler, if anything is. -/
def handlerError? (t : Tag) : Option Error :=
  match t.parameters with
  | none | some [] => none
  | some ps =>
      (Literal.fault? (handlerLiteral ps)).map (.parameters (handlerLiteral ps) ps)

/-! ## Rendering -/

/-- What is left of a text with markup. -/
structure Rendered where
  /-- The text. -/
  text : List Char
  /-- The words of its styles. -/
  styles : List (List Char)
  deriving DecidableEq, Repr

/-- The styles behind a tag. -/
structure AfterTag where
  /-- The tags that are open, the last one first. -/
  opened : List Tag
  /-- The words of the style that ends here. -/
  ended : List (List Char)
  deriving DecidableEq, Repr

/-- The normal form of a name. -/
def normalForm (name : List Char) : Except Error (List Char) :=
  match Style.normalForm name with
  | .ok n => .ok n
  | .error e => .error (.style e)

/-- The end of an open tag. -/
def endTag (t : Tag) (opened : List Tag) : Except Error AfterTag :=
  if t.name.head? = some '@' then
    match handlerError? t with
    | some e => .error e
    | none => .ok ⟨opened, []⟩
  else .ok ⟨opened, [t.style]⟩

/-- What a tag does. -/
def afterTag (position : Nat) (t : Tag) (opened : List Tag) : Except Error AfterTag :=
  match t.name with
  | '/' :: name =>
      if Text.trim name = [] then
        match opened with
        | [] => .error (.nothingOpen position)
        | last :: rest => endTag last rest
      else
        match normalForm (Text.trim name) with
        | .error e => .error e
        | .ok n =>
            match opened.find? (·.name = n) with
            | some start => endTag start (opened.eraseP (·.name = n))
            | none => .error (.unmatched position t)
  | name =>
      match normalForm name with
      | .error e => .error e
      | .ok n => .ok ⟨⟨n, t.parameters⟩ :: opened, []⟩

/-- What is left of some pieces, with tags open in front of them. -/
def renderPieces (opened : List Tag) : List Piece → Except Error Rendered
  | [] => .ok ⟨[], opened.map Tag.style⟩
  | .text cs :: rest =>
      match renderPieces opened rest with
      | .ok r => .ok { r with text := Emoji.replace (unescape cs) ++ r.text }
      | .error e => .error e
  | .escaped cs :: rest =>
      match renderPieces opened rest with
      | .ok r => .ok { r with text := Emoji.replace cs ++ r.text }
      | .error e => .error e
  | .tag position t :: rest =>
      match afterTag position t opened with
      | .ok after =>
          match renderPieces after.opened rest with
          | .ok r => .ok { r with styles := after.ended ++ r.styles }
          | .error e => .error e
      | .error e => .error e
termination_by structural ps => ps

/-- What is wrong with a style, if it is more than a strange word. -/
def styleError? (style : List Char) : Option Error :=
  match Style.parse style with
  | .ok _ | .error .strangeWord => none
  | .error e => some (.style e)

/-- The text of a line with markup. -/
def render (s : String) : Except Error (List Char) :=
  match renderPieces [] (piecesFrom 0 0 s.toList) with
  | .error e => .error e
  | .ok r =>
      match r.styles.findSome? styleError? with
      | some e => .error e
      | none => .ok r.text

end RouteGraft.Console.Markup
