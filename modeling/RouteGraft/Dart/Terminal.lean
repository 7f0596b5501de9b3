import RouteGraft.Text.Utf8

/-!
# Terminals of Dart

A `Terminal` is what the grammar of Dart has at its leaves.  There are more of
them than tokens in a text, since what a token is depends on what is expected.
`get` is a keyword in front of the name of a getter and a name anywhere else.
Two signs `>` with nothing between them shift, or close two lists of types.
Where a sign of addition is expected, `-` is one, and where a sign in front of
a value is expected it is another terminal.

The terminals are listed in the order in which the rules of the grammar first
ask for them, after the plain name.  That order decides between readings of a
text that are otherwise equal.

`form` says how a terminal is written.  A keyword is a word, or a word with a
star glued to it, and a sign has one or more spellings.  Names, numbers,
strings and blocks are written in many ways.  Nothing at all is written where a
closure has no value behind its arrow.
-/

namespace RouteGraft.Dart

/-- The leaves of the grammar. -/
inductive Terminal where
  | name | hash | decimalNumber | hexNumber | floatingNumber | true_ | false_ | text
  | openBracket | comma | closeBracket | openBrace | closeBrace | colon | null_
  | openParen | closeParen | throw_ | assign | plusAssign | minusAssign | timesAssign
  | divideAssign | moduloAssign | wholeDivideAssign | shiftLeftAssign | shiftRightAssign
  | shiftFarAssign | andAssign | xorAssign | orAssign | ifNullAssign | ifNull | question
  | equality | less | greater | lessEqual | greaterEqual | bar | caret | ampersand
  | shiftLeft | shiftRight | shiftFar | additive | star | divide | modulo | wholeDivide
  | increment | spread | minus | bang | tilde | await_ | is_ | as_ | dot | cascade
  | questionCascade | questionDot | block | switch_ | arrow | when_ | if_ | case_
  | else_ | in_ | for_ | at_ | final_ | inline_ | class_ | extends_ | with_
  | doubleAssign | brackets | bracketsAssign | void_ | var_ | async_ | asyncStar
  | syncStar | assert_ | rethrow_ | covariant_ | factory_ | function_ | get_ | native_
  | implements_ | interface_ | base_ | abstract_ | sealed_ | operator_ | mixin_
  | required_ | set_ | static_ | new_ | bothTrue | oneTrue | const_ | late_ | external_
  | this_ | super_ | semicolon | missing
  deriving DecidableEq, Repr

namespace Terminal

/-- The ways in which a terminal is written. -/
inductive Form where
  | word (spelling : String)
  /-- A word with a star glued to it. -/
  | starred (spelling : String)
  | sign (spellings : List String)
  | other
  deriving DecidableEq, Repr

/-- How a terminal is written. -/
def form : Terminal → Form
  | true_ => .word "true"
  | false_ => .word "false"
  | null_ => .word "null"
  | throw_ => .word "throw"
  | await_ => .word "await"
  | is_ => .word "is"
  | as_ => .word "as"
  | switch_ => .word "switch"
  | when_ => .word "when"
  | if_ => .word "if"
  | case_ => .word "case"
  | else_ => .word "else"
  | in_ => .word "in"
  | for_ => .word "for"
  | final_ => .word "final"
  | inline_ => .word "inline"
  | class_ => .word "class"
  | extends_ => .word "extends"
  | with_ => .word "with"
  | void_ => .word "void"
  | var_ => .word "var"
  | async_ => .word "async"
  | assert_ => .word "assert"
  | rethrow_ => .word "rethrow"
  | covariant_ => .word "covariant"
  | factory_ => .word "factory"
  | function_ => .word "Function"
  | get_ => .word "get"
  | native_ => .word "native"
  | implements_ => .word "implements"
  | interface_ => .word "interface"
  | base_ => .word "base"
  | abstract_ => .word "abstract"
  | sealed_ => .word "sealed"
  | operator_ => .word "operator"
  | mixin_ => .word "mixin"
  | required_ => .word "required"
  | set_ => .word "set"
  | static_ => .word "static"
  | new_ => .word "new"
  | const_ => .word "const"
  | late_ => .word "late"
  | external_ => .word "external"
  | this_ => .word "this"
  | super_ => .word "super"
  | asyncStar => .starred "async"
  | syncStar => .starred "sync"
  | hash => .sign ["#"]
  | openBracket => .sign ["["]
  | comma => .sign [","]
  | closeBracket => .sign ["]"]
  | openBrace => .sign ["\x7b"]
  | closeBrace => .sign ["\x7d"]
  | colon => .sign [":"]
  | openParen => .sign ["("]
  | closeParen => .sign [")"]
  | assign => .sign ["="]
  | plusAssign => .sign ["+="]
  | minusAssign => .sign ["-="]
  | timesAssign => .sign ["*="]
  | divideAssign => .sign ["/="]
  | moduloAssign => .sign ["%="]
  | wholeDivideAssign => .sign ["~/="]
  | shiftLeftAssign => .sign ["<<="]
  | shiftRightAssign => .sign [">>="]
  | shiftFarAssign => .sign [">>>="]
  | andAssign => .sign ["&="]
  | xorAssign => .sign ["^="]
  | orAssign => .sign ["|="]
  | ifNullAssign => .sign ["??="]
  | ifNull => .sign ["??"]
  | question => .sign ["?"]
  | less => .sign ["<"]
  | greater => .sign [">"]
  | lessEqual => .sign ["<="]
  | greaterEqual => .sign [">="]
  | bar => .sign ["|"]
  | caret => .sign ["^"]
  | ampersand => .sign ["&"]
  | shiftLeft => .sign ["<<"]
  | shiftRight => .sign [">>"]
  | shiftFar => .sign [">>>"]
  | star => .sign ["*"]
  | divide => .sign ["/"]
  | modulo => .sign ["%"]
  | wholeDivide => .sign ["~/"]
  | spread => .sign ["..."]
  | bang => .sign ["!"]
  | tilde => .sign ["~"]
  | dot => .sign ["."]
  | cascade => .sign [".."]
  | questionCascade => .sign ["?.."]
  | questionDot => .sign ["?."]
  | arrow => .sign ["=>"]
  | at_ => .sign ["@"]
  | doubleAssign => .sign ["=="]
  | brackets => .sign ["[]"]
  | bracketsAssign => .sign ["[]="]
  | bothTrue => .sign ["&&"]
  | oneTrue => .sign ["||"]
  | semicolon => .sign [";"]
  | equality => .sign ["==", "!="]
  | additive => .sign ["+", "-"]
  | increment => .sign ["++", "--"]
  | minus => .sign ["-"]
  | _ => .other

/-- The number of terminals. -/
def count : Nat := missing.ctorIdx + 1

/-- Every terminal, in order. -/
def all : List Terminal := (List.range count).map ofNat

/-- The name of a terminal in a syntax tree.  Signs and most keywords go by
their spelling, and some terminals do not show in the tree. -/
def name? : Terminal → Option String
  | name => some "identifier"
  | decimalNumber => some "decimal_integer_literal"
  | hexNumber => some "hex_integer_literal"
  | floatingNumber => some "decimal_floating_point_literal"
  | equality => some "equality_operator"
  | increment => some "increment_operator"
  | minus => some "minus_operator"
  | void_ => some "void_type"
  | assert_ => some "assert_builtin"
  | rethrow_ => some "rethrow_builtin"
  | const_ => some "const_builtin"
  | additive => none
  | t =>
      match t.form with
      | .word spelling => some spelling
      | .starred spelling => some (spelling ++ "*")
      | .sign (spelling :: _) => some spelling
      | _ => none

/-- Whether a terminal is a part of its construct, and not punctuation. -/
def isPart : Terminal → Bool
  | name | decimalNumber | hexNumber | floatingNumber | equality | increment | minus | void_
  | assert_ | rethrow_ | const_ => true
  | _ => false

/-- The spellings of signs, as characters. -/
def spellings (t : Terminal) : List (List Char) :=
  match t.form with
  | .sign spellings => spellings.map String.toList
  | _ => []

/-- The words that are keywords somewhere, as bytes.  A word that is one only
with a star comes last. -/
def words : List (Bytes × Terminal) :=
  (all.filterMap fun t =>
    match t.form with
    | .word spelling => some (Utf8.encode spelling, t)
    | _ => none)
  ++ all.filterMap fun t =>
    match t.form with
    | .starred spelling => some (Utf8.encode spelling, t)
    | _ => none

/-- The keyword a word spells. -/
def ofWord? (word : Bytes) : Option Terminal := (words.find? (·.1 == word)).map (·.2)

/-- The keyword that a star makes of another one. -/
def withStar? : Terminal → Option Terminal
  | async_ => some asyncStar
  | syncStar => some syncStar
  | _ => none

/-- Whether a keyword that turns out to be no use where it stands can still be
taken for a name.  The two that stand behind a whole expression or a whole list
of parameters cannot. -/
def isFlexible (t : Terminal) : Bool :=
  match t, t.form with
  | as_, _ | async_, _ => false
  | _, .word _ => true
  | _, _ => false

end Terminal

end RouteGraft.Dart
