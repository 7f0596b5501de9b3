import RouteGraft.Console.EmojiTable
import RouteGraft.Text.CodePoints
import RouteGraft.Text.Letters
import RouteGraft.Text.Space

/-!
# Emoji

On the console a name between two colons is shown as the emoji of that name.
The name has no space in it, and its capitals do not matter.  It may end in
`-text` or `-emoji`, which adds the mark for a plain or a coloured picture.

A name that no emoji has is left as it is, with its colons.  The second colon
then starts no other name.
-/

namespace RouteGraft.Console.Emoji

/-- The name and the characters of an entry of the table. -/
def ofEntry (entry : String) : String × List Char :=
  match entry.splitOn "=" with
  | [name, codes] =>
      (name, (codes.splitOn "-").map fun code => Char.ofNat (Text.CodePoints.ofHex code))
  | _ => (entry, [])

/-- The names and what they stand for. -/
def named : List (String × List Char) := (Text.entries table).map ofEntry

/-- What a name in small letters stands for. -/
def named? (name : List Char) : Option (List Char) :=
  (named.find? (·.1 = String.ofList name)).map (·.2)

/-- The ends of names that add a mark, and the marks. -/
def marks : List (String × Char) := [("-text", '\ufe0e'), ("-emoji", '\ufe0f')]

/-- What the text between two colons stands for. -/
def shown? (inside : List Char) : Option (List Char) :=
  match marks.find? fun (ending, _) => ending.toList.isSuffixOf inside with
  | some (ending, mark) =>
      (named? ((inside.take (inside.length - ending.length)).map Text.lower)).map (· ++ [mark])
  | none => named? (inside.map Text.lower)

/-- A text with its emoji.  `skip` counts the characters of the last name that
are still to come. -/
def replaceFrom (skip : Nat) : List Char → List Char
  | [] => []
  | c :: rest =>
      match skip with
      | skip + 1 => replaceFrom skip rest
      | 0 =>
          let inside := rest.takeWhile fun c => !Text.isSpace c && c ≠ ':'
          if c = ':' ∧ (rest.drop inside.length).head? = some ':' then
            (shown? inside).getD (':' :: inside ++ [':'])
              ++ replaceFrom (inside.length + 1) rest
          else c :: replaceFrom 0 rest
termination_by structural cs => cs

/-- A text with its emoji. -/
def replace (cs : List Char) : List Char := replaceFrom 0 cs

theorem replace_of_not_mem {cs : List Char} (noColon : ':' ∉ cs) : replace cs = cs := by
  unfold replace
  induction cs with
  | nil => rfl
  | cons c rest ih =>
      simp only [List.mem_cons, not_or] at noColon
      simp [replaceFrom, Ne.symm noColon.1, ih noColon.2]

end RouteGraft.Console.Emoji
