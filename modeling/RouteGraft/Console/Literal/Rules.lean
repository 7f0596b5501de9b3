import RouteGraft.Console.Literal.Pattern

/-!
# The rules of expressions

`Rule.pattern` says how expressions are read.  Only a few of them are literals,
but what is wrong with a text is told as for any expression: values with
operators between them, conditions, functions, calls, loops.  Square brackets
have no rule here, since no tag has them inside.

The patterns of mistakes stand where the mistake would be made, mostly in front
of what is right or right behind it.
-/

namespace RouteGraft.Console.Literal

open Pattern (never sign optional many repeated separated form ahead absent dropped made
  grown quiet)

/-! ## Tokens -/

/-- A rule as a pattern. -/
def r (x : Rule) : Pattern := .rule x

/-- Whether a token is a name. -/
def Token.isName : Token → Bool
  | .name _ => true
  | _ => false

/-- Whether a token is a text in quotes. -/
def Token.isText : Token → Bool
  | .text .. => true
  | _ => false

/-- Whether a token is a number. -/
def Token.isNumber : Token → Bool
  | .number .. => true
  | _ => false

/-- Whether a token is one of the constants. -/
def Token.isConstant : Token → Bool
  | .constant _ => true
  | _ => false

/-- Whether a token is the start of a name that is a command elsewhere. -/
def Token.isCommand : Token → Bool
  | .name word => ["_", "case", "match"].any (word.toList.isPrefixOf ·.toList)
  | _ => false

/-- A name. -/
def name : Pattern := .token Token.isName

/-- One of the constants. -/
def constant : Pattern := .token Token.isConstant

/-! ## Trees -/

/-- The name that was a command once, if an expression is one. -/
def oldCommand? : Tree → Option String
  | .leaf (.name word) => if word = "print" || word = "exec" then some word else none
  | _ => none

/-- A number, if it is not too long. -/
def builtNumber : List Tree → Except Fault Tree
  | [.leaf (.number imaginary none)] => .ok (.leaf (.number imaginary none))
  | [.leaf (.number _ (some e))] => .error e
  | _ => .error .strangeToken

/-- Texts side by side as one text.  `before` is the one in front of them. -/
def joinTexts (before : Option (Bool × Bool)) : List Tree → Except Fault Tree
  | .leaf (.text bytes formatted fault) :: rest =>
      match fault, before with
      | some e, _ => .error e
      | none, none => joinTexts (some (bytes, formatted)) rest
      | none, some (bytes', formatted') =>
          if bytes = bytes' then joinTexts (some (bytes, formatted || formatted')) rest
          else .error .mixedTexts
  | _ =>
      match before with
      | some (bytes, formatted) => .ok (.leaf (.text bytes formatted none))
      | none => .error .strangeToken
termination_by structural ts => ts

/-- The part of a target of a loop that cannot be assigned to.  Fuel bounds how
deep parts are in one another. -/
def badTarget? : (fuel : Nat) → Tree → Option Tree
  | 0, _ => none
  | fuel + 1, t =>
      match t with
      | .leaf (.name _) | .node .attribute _ | .node .comparison _ => none
      | .node .tuple parts => parts.findSome? (badTarget? fuel)
      | .node .starred (part :: _) | .node .membership (part :: _) => badTarget? fuel part
      | t => some t

/-- How many arguments have no name. -/
def namelessCount (arguments : List Tree) : Nat :=
  arguments.countP fun a => !a.isForm .keyword && !a.isForm .unpacking

/-! ## Mistakes -/

/-- The patterns of a mistake that is told wherever they match. -/
def told (m : Mistake) (p : Pattern) (otherwise : Pattern) : Pattern :=
  .mistake p (fun _ => some m) otherwise

/-- The mistake that the first of the kept trees tells of. -/
def aboutFirst (f : String → Mistake) (found : Match) : Option Mistake :=
  found.trees.head?.map fun t => f t.title

/-- Two values side by side. -/
def tellMissingComma (found : Match) : Option Mistake :=
  if (found.trees.head?.bind oldCommand?).isSome || found.level = 0 then none
  else some .missingComma

/-- A command that has become a function. -/
def tellOldCommand (found : Match) : Option Mistake :=
  (found.trees.head?.bind oldCommand?).map .oldCommand

/-- A loop that cannot be assigned to. -/
def tellLoopTarget (found : Match) : Option Mistake :=
  (found.trees.head?.bind (badTarget? depthLimit)).map fun t => .loopTarget t.title

/-- A loop behind other arguments. -/
def tellBareLoop (found : Match) : Option Mistake :=
  if namelessCount found.trees > 1 then some .bareLoop else none

/-- Arguments behind ones with a name. -/
def tellNameless (found : Match) : Option Mistake :=
  some (if found.trees.any (·.isForm .unpacking) then .namelessBehindStars
    else .namelessArgument)

/-! ## Patterns -/

/-- Values with commas in between, which make up a tuple if there is a comma. -/
def tupled (p : Pattern) : Pattern :=
  form .tuple (p ++ repeated (sign "," ++ p) ++ optional (sign ","))
    ||| form .tuple (p ++ sign ",")
    ||| p

/-- An operator with the operand behind it. -/
def behind (f : Form) (signs : List String) (operand : Pattern) : Pattern :=
  signs.foldr (fun s p => form f (sign s ++ operand) ||| p) never

/-- The rest of a comparison. -/
def compared : Pattern :=
  let signs := ["==", "!=", "<=", "<", ">=", ">"].foldr (fun s p => sign s ||| p) never
  (signs ||| sign "not" ++ sign "in" ||| sign "in" ||| sign "is" ++ sign "not" ||| sign "is")
    ++ r .bitOr

/-- What an argument without a name may be. -/
def plainArgument : Pattern := r .naming ||| r .value ++ absent (sign ":=")

/-- What may follow a part of a target that goes on. -/
def targetGoesOn : Pattern := ahead (sign "(" ||| sign ".")

/-- The start of a loop. -/
def loopHead : Pattern := optional (sign "async") ++ sign "for" ++ r .targets ++ sign "in"

/-- The end of a parameter: a comma, or the colon behind all of them. -/
def parameterEnd : Pattern := sign "," ||| ahead (sign ":")

/-- The default of a parameter. -/
def default_ : Pattern :=
  sign "=" ++ r .value ||| told .emptyDefault (sign "=" ++ ahead (sign ")" ||| sign ",")) never

/-- How a rule is read. -/
def Rule.pattern : Rule → Pattern
  | whole => r .values ++ many (.mark .lineEnd) ++ .mark .ending
  | values => tupled (r .value)
  | value =>
      .mistake (absent (name ++ .token Token.isText ||| .token Token.isCommand)
          ++ r .disjunction
          ++ quiet (form .conditional (r .disjunction ++ sign "if" ++ r .disjunction
              ++ sign "else" ++ r .value) ||| r .disjunction ||| r .function))
        tellMissingComma
        (told .missingElse
          (r .disjunction ++ sign "if" ++ r .disjunction ++ absent (sign "else" ||| sign ":"))
          never)
      ||| .mistake (name ++ absent (sign "(") ++ r .starValues) tellOldCommand never
      ||| form .conditional
        (r .disjunction ++ sign "if" ++ r .disjunction ++ sign "else" ++ r .value)
      ||| r .disjunction
      ||| r .function
  | starValues => tupled (r .starValue)
  | starValue => form .starred (sign "*" ++ r .bitOr) ||| r .value
  | starOperands => separated (r .starOperand) ++ optional (sign ",")
  | starOperand => form .starred (sign "*" ++ r .bitOr) ||| r .operand
  | naming => form .named (name ++ sign ":=" ++ r .value)
  | operand => r .naming ||| r .misnaming ||| r .value ++ absent (sign ":=")
  | misnaming =>
      .mistake (r .value ++ sign ":=" ++ r .value) (aboutFirst .namedWrongly)
        (told .assignedName
          (name ++ sign "=" ++ r .bitOr ++ absent (sign "=" ||| sign ":="))
          (.mistake (absent (r .tuple ||| r .generator ||| constant)
              ++ r .bitOr ++ sign "=" ++ r .bitOr ++ absent (sign "=" ||| sign ":="))
            (aboutFirst .assigned) never))
  | disjunction =>
      form .operation (r .conjunction ++ repeated (sign "or" ++ r .conjunction))
        ||| r .conjunction
  | conjunction =>
      form .operation (r .inversion ++ repeated (sign "and" ++ r .inversion)) ||| r .inversion
  | inversion => form .operation (sign "not" ++ r .inversion) ||| r .comparison
  | comparison =>
      form .membership (r .bitOr ++ sign "in" ++ r .bitOr ++ many compared)
        ||| form .comparison (r .bitOr ++ repeated compared)
        ||| r .bitOr
  | bitOr => grown (r .bitXor) (behind .operation ["|"] (r .bitXor))
  | bitXor => grown (r .bitAnd) (behind .operation ["^"] (r .bitAnd))
  | bitAnd => grown (r .shift) (behind .operation ["&"] (r .shift))
  | shift => grown (r .sum) (behind .operation ["<<", ">>"] (r .sum))
  | sum => grown (r .term) (behind .sum ["+", "-"] (r .term))
  | term => grown (r .factor) (behind .operation ["*", "/", "//", "%", "@"] (r .factor))
  | factor =>
      behind .signed ["+", "-"] (r .factor) ||| behind .operation ["~"] (r .factor)
        ||| r .power
  | power => form .operation (r .awaited ++ sign "**" ++ r .factor) ||| r .awaited
  | awaited => form .await (sign "await" ++ r .primary) ||| r .primary
  | primary =>
      grown (r .atom)
        (form .attribute (sign "." ++ name)
          ||| form .call (r .generator)
          ||| form .call (sign "(" ++ optional (r .arguments) ++ sign ")"))
  | atom =>
      name ||| constant ||| ahead (.token Token.isText) ++ r .texts
        ||| made builtNumber (.token Token.isNumber)
        ||| ahead (sign "(") ++ (r .tuple ||| r .group ||| r .generator)
        ||| ahead (sign "\x7b")
          ++ (r .dictionary ||| r .set ||| r .dictionaryLoop ||| r .setLoop)
        ||| .token (· = .dots)
  | texts => made (joinTexts none) (repeated (.token Token.isText))
  | group =>
      sign "("
          ++ (form .yield (sign "yield" ++ sign "from" ++ r .value)
            ||| form .yield (sign "yield" ++ optional (r .starValues))
            ||| r .operand)
          ++ sign ")"
        ||| told .starInBrackets (sign "(" ++ r .starredArgument ++ sign ")")
          (told .twoStarsInBrackets (sign "(" ++ sign "**" ++ r .value ++ sign ")") never)
  | tuple =>
      form .tuple (sign "("
        ++ optional (r .starOperand ++ sign "," ++ optional (r .starOperands)) ++ sign ")")
  | generator =>
      form .generator (sign "(" ++ plainArgument ++ r .loops ++ sign ")") ||| r .badLoop
  | set => form .set (sign "\x7b" ++ r .starOperands ++ sign "\x7d")
  | dictionary =>
      form .dictionary (sign "\x7b" ++ optional (r .entries) ++ sign "\x7d")
        ||| sign "\x7b" ++ r .badEntries ++ sign "\x7d"
  | setLoop =>
      form .setLoop (sign "\x7b" ++ r .operand ++ r .loops ++ sign "\x7d") ||| r .badLoop
  | dictionaryLoop =>
      form .dictionaryLoop (sign "\x7b" ++ r .pair ++ r .loops ++ sign "\x7d")
        ||| told .twoStarsInLoop
          (sign "\x7b" ++ sign "**" ++ r .bitOr ++ r .loops ++ sign "\x7d") never
  | entries => separated (r .entry) ++ optional (sign ",")
  | entry => form .unpacking (sign "**" ++ r .bitOr) ||| r .pair
  | pair => form .pair (r .value ++ sign ":" ++ r .value)
  | badEntries =>
      separated (r .entry) ++ sign "," ++ r .badPair
        ||| told .starredValue (r .value ++ sign ":" ++ sign "*" ++ r .bitOr)
          (told .missingValue
            (r .value ++ sign ":" ++ ahead (sign "\x7d" ||| sign ",")) never)
  | badPair =>
      told .missingColon (r .value ++ absent (sign ":"))
        (told .starredValue (r .value ++ sign ":" ++ sign "*" ++ r .bitOr)
          (told .missingValue
            (r .value ++ sign ":" ++ ahead (sign "\x7d" ||| sign ",")) never))
  | badLoop =>
      told .starInLoop ((sign "(" ||| sign "\x7b") ++ r .starredArgument ++ r .loops)
        (told .severalInLoop
          (sign "\x7b" ++ r .starOperand ++ sign "," ++ r .starOperands ++ r .loops)
          (told .severalInLoop (sign "\x7b" ++ r .starOperand ++ sign "," ++ r .loops) never))
  | loops => repeated (r .loop)
  | loop =>
      loopHead ++ r .disjunction ++ many (sign "if" ++ r .disjunction)
        ||| absent loopHead
          ++ .mistake (optional (sign "async") ++ sign "for" ++ r .starValues) tellLoopTarget
            never
  | targets =>
      r .target ++ absent (sign ",")
        ||| r .target ++ many (sign "," ++ r .target) ++ optional (sign ",")
  | target => sign "*" ++ absent (sign "*") ++ r .target ||| r .plainTarget
  | plainTarget =>
      r .targetPrimary ++ sign "." ++ name ++ absent targetGoesOn ||| r .targetAtom
  | targetAtom =>
      name ||| sign "(" ++ r .plainTarget ++ sign ")"
        ||| sign "(" ++ optional (r .targetTuple) ++ sign ")"
  | targetTuple =>
      r .target ++ repeated (sign "," ++ r .target) ++ optional (sign ",")
        ||| r .target ++ sign ","
  | targetPrimary =>
      grown (r .atom ++ targetGoesOn)
        ((form .attribute (sign "." ++ name)
          ||| form .call (r .generator)
          ||| form .call (sign "(" ++ optional (r .arguments) ++ sign ")")) ++ targetGoesOn)
  | arguments =>
      r .argumentList ++ optional (sign ",") ++ ahead (sign ")") ||| r .badArguments
  | argumentList =>
      separated (r .starredArgument ||| plainArgument ++ absent (sign "="))
          ++ optional (sign "," ++ r .keywordArguments)
        ||| r .keywordArguments
  | keywordArguments =>
      separated (r .namedOrStarred) ++ sign "," ++ separated (r .namedOrUnpacked)
        ||| separated (r .namedOrStarred)
        ||| separated (r .namedOrUnpacked)
  | badArguments =>
      told .starBehindStars (r .argumentList ++ sign "," ++ sign "*")
        (told .bareLoop
          (r .value ++ r .loops ++ sign "," ++ optional (r .argumentList ||| r .value ++ r .loops))
          (told .assignedName (name ++ sign "=" ++ r .value ++ r .loops)
            (.mistake (r .argumentList ++ dropped (r .loops)) tellBareLoop
              (told .bareLoop (r .argumentList ++ sign "," ++ r .value ++ r .loops)
                (.mistake (r .argumentList ++ sign "," ++ dropped (r .argumentList))
                  tellNameless never)))))
  | badKeyword =>
      .mistake (constant ++ sign "=") (aboutFirst .assignedConstant)
        (told .assignedName (name ++ sign "=" ++ r .value ++ r .loops)
          (told .assignedArgument (absent (name ++ sign "=") ++ r .value ++ sign "=") never))
  | starredArgument =>
      form .starred (sign "*" ++ r .value)
        ||| made (fun _ => .error (.mistake .bareStar)) (sign "*")
  | namedOrStarred =>
      r .badKeyword ||| form .keyword (name ++ sign "=" ++ r .value) ||| r .starredArgument
  | namedOrUnpacked =>
      r .badKeyword ||| form .keyword (name ++ sign "=" ++ r .value)
        ||| form .unpacking (sign "**" ++ r .value)
  | function =>
      form .function (sign "lambda" ++ optional (r .parameters) ++ sign ":" ++ r .value)
  | parameters => r .badParameters ||| r .plainParameters
  | plainParameters =>
      r .slashParameters ++ many (r .parameter) ++ many (r .defaultParameter)
          ++ optional (r .starParameters)
        ||| r .slashDefaults ++ many (r .defaultParameter) ++ optional (r .starParameters)
        ||| repeated (r .parameter) ++ many (r .defaultParameter) ++ optional (r .starParameters)
        ||| repeated (r .defaultParameter) ++ optional (r .starParameters)
        ||| r .starParameters
  | slashParameters => repeated (r .parameter) ++ sign "/" ++ parameterEnd
  | slashDefaults =>
      many (r .parameter) ++ repeated (r .defaultParameter) ++ sign "/" ++ parameterEnd
  | starParameters =>
      told .starWithoutNames
          (sign "*" ++ (sign ":" ||| sign "," ++ (sign ":" ||| sign "**")))
          (told .starDefault (sign "*" ++ name ++ sign "=")
            (told .twoStarParameters
              (sign "*" ++ (r .parameter ||| sign ",") ++ many (r .anyParameter) ++ sign "*"
                ++ (r .parameter ||| sign ",")) never))
        ||| sign "*" ++ r .parameter ++ many (r .anyParameter) ++ optional (r .starsParameter)
        ||| sign "*" ++ sign "," ++ repeated (r .anyParameter) ++ optional (r .starsParameter)
        ||| r .starsParameter
  | starsParameter =>
      told .starsDefault (sign "**" ++ name ++ sign "=")
          (told .parameterBehindStars (sign "**" ++ name ++ sign "," ++ name)
            (told .parameterBehindStars
              (sign "**" ++ name ++ sign "," ++ (sign "*" ||| sign "**" ||| sign "/")) never))
        ||| sign "**" ++ r .parameter
  | parameter => name ++ parameterEnd
  | defaultParameter => name ++ default_ ++ parameterEnd
  | anyParameter => name ++ optional default_ ++ parameterEnd
  | badParameters =>
      told .missingDefault
        (many (r .parameter)
          ++ (r .slashDefaults ||| repeated (r .defaultParameter)) ++ r .parameter)
        (told .bracketedParameters
          (many (r .parameter) ++ sign "(" ++ separated name ++ optional (sign ",") ++ sign ")")
          (told .slashFirst (sign "/" ++ sign ",")
            (told .twoSlashes
              ((r .slashParameters ||| r .slashDefaults) ++ many (r .anyParameter) ++ sign "/")
              (told .slashBehindStar
                (optional (r .slashParameters ||| r .slashDefaults) ++ many (r .anyParameter)
                  ++ sign "*" ++ (sign "," ||| r .parameter) ++ many (r .anyParameter)
                  ++ sign "/")
                (told .slashTouchesStar
                  (repeated (r .anyParameter) ++ sign "/" ++ sign "*") never)))))

/-- Whether a rule is remembered. -/
def Rule.isRemembered : Rule → Bool
  | value | starValue | disjunction | conjunction | inversion | bitOr | bitXor | bitAnd | shift
  | sum | term | factor | awaited | primary | texts | arguments | target | plainTarget
  | targetPrimary | misnaming => true
  | _ => false

/-- The rules of expressions. -/
def rules : Rules := ⟨Rule.pattern, Rule.isRemembered⟩

end RouteGraft.Console.Literal
