import RouteGraft.Parsing.Rule
import RouteGraft.Dart.Terminal
import RouteGraft.Dart.Construct

/-!
# The grammar of Dart

`Construct.rule` says what each construct consists of.

A block of statements and the body of a class are terminals here, with all that
is between their braces.  Nothing of a block shows from outside, and the
members of a class are read one by one.  So there are no rules for statements.

A closure may lack the value behind its arrow.

The levels of operators go from 1, for assignment, to 16, for the signs in front
of a value; a dot behind the name of a type has 19.  An operator that can be
repeated takes what follows it with all the operators in it, whatever their
level is: behind the first operand, the rule asks for a repetition, and that has
no level before it ends.
-/

namespace RouteGraft.Dart

open Parsing (Rule Symbol)
open Parsing.Rule (optional many repeated favoured)

/-- The number of a terminal among the symbols of the grammar. -/
def Terminal.symbol (t : Terminal) : Symbol := t.ctorIdx

/-- The number of a construct among the symbols of the grammar. -/
def Construct.symbol (c : Construct) : Symbol := Terminal.count + c.ctorIdx

namespace Construct

/-- A terminal as a rule. -/
def t (terminal : Terminal) : Rule := .symbol terminal.symbol

/-- A construct as a rule. -/
def c (construct : Construct) : Rule := .symbol construct.symbol

/-- A part on a level on which the left side wins. -/
def left (level : Int) (r : Rule) : Rule := .ranked level (some .left) r

/-- A part on a level on which the right side wins. -/
def right (level : Int) (r : Rule) : Rule := .ranked level (some .right) r

/-- A part on a level on which no side wins. -/
def level (n : Int) (r : Rule) : Rule := .ranked n none r

/-- One or more of a part with commas in between. -/
def separated (r : Rule) : Rule := r ++ many (t .comma ++ r)

/-- One or more of a part with commas in between, and perhaps one behind. -/
def listed (r : Rule) : Rule := separated r ++ optional (t .comma)

/-- What a construct consists of. -/
def rule : Construct → Rule
  | boolLiteral => c .trueLiteral ||| c .falseLiteral
  | numericLiteral => t .decimalNumber ||| t .floatingNumber ||| t .hexNumber
  | literal =>
      c .nullLiteral ||| c .boolLiteral ||| c .numericLiteral ||| c .stringLiteral
        ||| c .symbolLiteral ||| c .setOrMapLiteral ||| c .listLiteral ||| c .recordLiteral
  | symbolLiteral => t .hash ++ t .name
  | trueLiteral => t .true_
  | falseLiteral => t .false_
  | stringLiteral => repeated (t .text)
  | listLiteral =>
      optional (t .const_) ++ optional (c .typeArguments) ++ t .openBracket
        ++ optional (listed (c .element)) ++ t .closeBracket
  | setOrMapLiteral =>
      optional (t .const_) ++ optional (c .typeArguments) ++ t .openBrace
        ++ optional (listed (c .element)) ++ t .closeBrace
  | pair => c .expression ++ t .colon ++ c .expression
  | element => c .expression ||| c .pair ||| c .spreadElement ||| c .ifElement ||| c .forElement
  | nullLiteral => t .null_
  | recordLiteral => optional (t .const_) ++ c .recordLiteralNoConst
  | recordLiteralNoConst =>
      t .openParen
        ++ (c .label ++ c .expression
            ||| c .expression ++ t .comma
            ||| c .recordField ++ repeated (t .comma ++ c .recordField) ++ optional (t .comma))
        ++ t .closeParen
  | recordField => optional (c .label) ++ c .expression
  | expression =>
      c .patternAssignment
      ||| c .assignmentExpression
      ||| c .throwExpression
      ||| c .rethrowExpression
      ||| c .realExpression ++ many (c .cascadeSection)
  | expressionWithoutCascade =>
      c .assignmentExpressionWithoutCascade ||| c .realExpression
        ||| c .throwExpressionWithoutCascade
  | realExpression =>
      c .conditionalExpression ||| c .logicalOrExpression ||| c .ifNullExpression
        ||| c .additiveExpression ||| c .multiplicativeExpression ||| c .relationalExpression
        ||| c .equalityExpression ||| c .logicalAndExpression ||| c .bitwiseAndExpression
        ||| c .bitwiseOrExpression ||| c .bitwiseXorExpression ||| c .shiftExpression
        ||| c .typeCastExpression ||| c .typeTestExpression ||| c .unaryOperand
  | throwExpression => t .throw_ ++ c .expression
  | throwExpressionWithoutCascade => t .throw_ ++ c .expressionWithoutCascade
  | rethrowExpression => t .rethrow_
  | assignmentExpression =>
      right 1 (c .assignableExpression ++ c .assignmentOperator ++ c .expression)
  | assignmentExpressionWithoutCascade =>
      right 1 (c .assignableExpression ++ c .assignmentOperator ++ c .expressionWithoutCascade)
  | assignableExpression =>
      c .primary ++ c .assignableSelectorPart
      ||| c .super_ ++ c .unconditionalAssignableSelector
      ||| c .constructorInvocation ++ c .assignableSelectorPart
      ||| t .name
  | assignableSelectorPart => many (c .selector) ++ c .assignableSelector
  | assignmentOperator =>
      t .assign ||| t .plusAssign ||| t .minusAssign ||| t .timesAssign ||| t .divideAssign
        ||| t .moduloAssign ||| t .wholeDivideAssign ||| t .shiftLeftAssign
        ||| t .shiftRightAssign ||| t .shiftFarAssign ||| t .andAssign ||| t .xorAssign
        ||| t .orAssign ||| t .ifNullAssign
  | functionExpression => c .formalParameterPart ++ c .functionExpressionBody
  | ifNullExpression => left 4 (c .realExpression ++ c .ifNullTail)
  | ifNullTail => repeated (t .ifNull ++ c .realExpression)
  | conditionalExpression =>
      left 3
        (c .realExpression ++ t .question ++ c .expressionWithoutCascade ++ t .colon
            ++ c .expressionWithoutCascade)
  | logicalOrExpression =>
      left 5 (c .realExpression ++ repeated (c .logicalOrOperator ++ c .realExpression))
  | logicalAndExpression =>
      left 6 (c .realExpression ++ repeated (c .logicalAndOperator ++ c .realExpression))
  | equalityExpression =>
      level 7
        (c .realExpression ++ t .equality ++ c .realExpression
          ||| c .super_ ++ t .equality ++ c .realExpression)
  | typeCastExpression => left 9 (c .realExpression ++ c .typeCast)
  | typeTestExpression => level 9 (c .realExpression ++ c .typeTest)
  | relationalExpression =>
      level 8
        (c .realExpression ++ c .relationalOperator ++ c .realExpression
          ||| c .super_ ++ c .relationalOperator ++ c .realExpression)
  | relationalOperator => t .less ||| t .greater ||| t .lessEqual ||| t .greaterEqual
  | bitwiseOrExpression =>
      left 10
        (c .realExpression ++ repeated (t .bar ++ c .realExpression)
          ||| c .super_ ++ repeated (t .bar ++ c .realExpression))
  | bitwiseXorExpression =>
      left 11
        (c .realExpression ++ repeated (t .caret ++ c .realExpression)
          ||| c .super_ ++ repeated (t .caret ++ c .realExpression))
  | bitwiseAndExpression =>
      left 12
        (c .realExpression ++ repeated (t .ampersand ++ c .realExpression)
          ||| c .super_ ++ repeated (t .ampersand ++ c .realExpression))
  | shiftExpression =>
      left 13
        (c .realExpression ++ repeated (c .shiftOperator ++ c .realExpression)
          ||| c .super_ ++ repeated (c .shiftOperator ++ c .realExpression))
  | additiveExpression =>
      left 14
        (c .realExpression ++ repeated (c .additiveOperator ++ c .realExpression)
          ||| c .super_ ++ repeated (c .additiveOperator ++ c .realExpression))
  | multiplicativeExpression =>
      left 15
        (c .unaryOperand ++ repeated (c .multiplicativeOperator ++ c .unaryOperand)
          ||| c .super_ ++ repeated (c .multiplicativeOperator ++ c .unaryOperand))
  | bitwiseOperator => c .bitwiseSign
  | bitwiseSign => t .ampersand ||| t .caret ||| t .bar
  | shiftOperator => c .shiftSign
  | shiftSign => t .shiftLeft ||| t .shiftRight ||| t .shiftFar
  | additiveOperator => t .additive
  | multiplicativeOperator => c .multiplicativeSign
  | multiplicativeSign => t .star ||| t .divide ||| t .modulo ||| t .wholeDivide
  | unaryOperand => level 16 (c .postfixOperand ||| c .unaryExpression)
  | unaryExpression =>
      level 16
        (c .prefixOperator ++ c .unaryOperand
          ||| c .awaitExpression
          ||| (t .minus ||| c .tildeOperator) ++ c .super_
          ||| t .increment ++ c .assignableExpression)
  | postfixOperand => c .primary ++ many (c .selector) ||| c .postfixExpression
  | postfixExpression =>
      right 0
        (c .assignableExpression ++ c .postfixOperator
          ||| c .constructorInvocation ++ many (c .selector))
  | postfixOperator => t .increment
  | spreadElement => t .spread ++ optional (t .question) ++ c .expression
  | selector =>
      right 0 (c .bangSign ||| c .assignableSelector ||| c .argumentPart ||| c .typeArguments)
  | prefixOperator => t .minus ||| c .negationOperator ||| c .tildeOperator
  | negationOperator => c .bangSign
  | bangSign => t .bang
  | tildeOperator => t .tilde
  | awaitExpression => t .await_ ++ c .unaryOperand
  | typeTest => c .isOperator ++ c .typeNotVoid
  | isOperator => t .is_ ++ optional (c .bangSign)
  | typeCast => c .asOperator ++ c .typeNotVoid
  | asOperator => t .as_
  | newExpression => c .newWord ++ c .typeNotVoid ++ optional (c .dotIdentifier) ++ c .arguments
  | dotIdentifier => favoured 19 (t .dot ++ t .name)
  | constObjectExpression =>
      t .const_ ++ c .typeNotVoid ++ optional (c .dotIdentifier) ++ c .arguments
  | primary =>
      c .literal
      ||| t .name
      ||| c .getWord
      ||| c .setWord
      ||| c .functionExpression
      ||| c .newExpression
      ||| c .constObjectExpression
      ||| c .parenthesizedExpression
      ||| c .this_
      ||| c .super_ ++ c .unconditionalAssignableSelector
      ||| c .constructorTearoff
      ||| c .switchExpression
  | parenthesizedExpression => t .openParen ++ c .expression ++ t .closeParen
  | constructorInvocation =>
      right 0
        (c .typeName ++ c .typeArguments ++ t .dot ++ t .name ++ c .arguments
          ||| c .typeName ++ t .dot ++ c .newWord ++ c .arguments)
  | constructorTearoff =>
      right 0 (c .typeName ++ optional (c .typeArguments) ++ t .dot ++ c .newWord)
  | arguments => t .openParen ++ optional (c .argumentList) ++ t .closeParen
  | argumentList => right 0 (listed (c .anyArgument))
  | anyArgument => c .argument ||| c .namedArgument
  | argument => c .expression
  | namedArgument => c .label ++ c .expression
  | cascadeSection =>
      left 2
        ((t .cascade ||| t .questionCascade) ++ c .cascadeSelector ++ many (c .argumentPart)
            ++ many (c .cascadeSubsection) ++ optional (c .cascadeAssignmentSection))
  | cascadeSubsection => c .assignableSelector ++ many (c .argumentPart)
  | cascadeAssignmentSection => c .assignmentOperator ++ c .expressionWithoutCascade
  | indexSelector => t .openBracket ++ c .expression ++ t .closeBracket
  | cascadeSelector => optional (c .nullableSelector) ++ c .indexSelector ||| t .name
  | argumentPart => optional (c .typeArguments) ++ c .arguments
  | unconditionalAssignableSelector => c .indexSelector ||| t .dot ++ t .name
  | conditionalAssignableSelector =>
      t .questionDot ++ t .name ||| t .question ++ c .indexSelector
  | assignableSelector =>
      c .unconditionalAssignableSelector ||| c .conditionalAssignableSelector
  | typeArguments => t .less ++ optional (separated (c .type)) ++ t .greater
  | block => t .block
  | assertion => t .assert_ ++ c .assertionArguments
  | assertionArguments =>
      t .openParen ++ c .expression ++ optional (t .comma ++ c .expression)
        ++ optional (t .comma) ++ t .closeParen
  | switchExpression =>
      t .switch_ ++ c .parenthesizedExpression ++ t .openBrace
        ++ listed (c .switchExpressionCase) ++ t .closeBrace
  | switchExpressionCase => c .guardedPattern ++ t .arrow ++ c .expression
  | guardedPattern => c .pattern ++ optional (t .when_ ++ c .expression)
  | pattern => c .logicalOrPattern
  | logicalOrPattern =>
      c .logicalAndPattern ++ many (c .logicalOrOperator ++ c .logicalAndPattern)
  | logicalAndPattern =>
      c .relationalPattern ++ many (c .logicalAndOperator ++ c .relationalPattern)
  | relationalPattern =>
      level 8 ((c .relationalOperator ||| t .equality) ++ c .realExpression ||| c .unaryPattern)
  | unaryPattern =>
      c .castPattern ||| c .nullCheckPattern ||| c .nullAssertPattern ||| c .primaryPattern
  | primaryPattern =>
      c .constantPattern ||| c .variablePattern ||| c .parenthesizedPattern ||| c .listPattern
        ||| c .mapPattern ||| c .recordPattern ||| c .objectPattern
  | castPattern => c .primaryPattern ++ t .as_ ++ c .type
  | nullCheckPattern => c .primaryPattern ++ t .question
  | nullAssertPattern => c .primaryPattern ++ t .bang
  | constantPattern =>
      c .boolLiteral
      ||| c .nullLiteral
      ||| optional (t .minus) ++ c .numericLiteral
      ||| c .stringLiteral
      ||| c .symbolLiteral
      ||| t .name
      ||| c .qualified
      ||| c .constObjectExpression
      ||| t .const_ ++ optional (c .typeArguments) ++ t .openBracket ++ listed (c .element)
            ++ t .closeBracket
      ||| t .const_ ++ optional (c .typeArguments) ++ t .openBrace ++ listed (c .element)
            ++ t .closeBrace
      ||| t .const_ ++ t .openParen ++ c .expression ++ t .closeParen
  | variablePattern => c .finalVarOrType ++ t .name
  | parenthesizedPattern => t .openParen ++ c .pattern ++ t .closeParen
  | listPattern =>
      optional (c .typeArguments) ++ t .openBracket ++ optional (listed (c .listPatternElement))
        ++ t .closeBracket
  | listPatternElement => c .pattern ||| c .restPattern
  | restPattern => t .spread ++ optional (c .pattern)
  | mapPattern =>
      optional (c .typeArguments) ++ t .openBrace ++ optional (listed (c .mapPatternEntry))
        ++ t .closeBrace
  | mapPatternEntry => c .expression ++ t .colon ++ c .pattern ||| t .spread
  | recordPattern => t .openParen ++ listed (c .patternField) ++ t .closeParen
  | patternField => optional (optional (t .name) ++ t .colon) ++ c .pattern
  | objectPattern =>
      c .typeName ++ optional (c .typeArguments) ++ t .openParen ++ listed (c .patternField)
        ++ t .closeParen
  | patternVariableDeclaration =>
      (c .finalWord ||| c .inferredType) ++ c .outerPattern ++ t .assign ++ c .expression
  | outerPattern =>
      c .parenthesizedPattern ||| c .listPattern ||| c .mapPattern ||| c .recordPattern
        ||| c .objectPattern
  | patternAssignment => c .outerPattern ++ t .assign ++ c .expression
  | ifElement =>
      right 0
        (t .if_ ++ t .openParen ++ c .expression ++ optional (t .case_ ++ c .guardedPattern)
            ++ t .closeParen ++ c .element ++ optional (t .else_ ++ c .element))
  | forLoopParts => t .openParen ++ c .forLoopHeader ++ t .closeParen
  | forLoopHeader =>
      (c .declaredIdentifier ||| t .name) ++ t .in_ ++ c .expression
      ||| optional
            (c .localVariableDeclaration
              ||| optional (separated (c .expression)) ++ c .semicolon)
            ++ optional (c .expression) ++ c .semicolon ++ optional (separated (c .expression))
      ||| (c .finalWord ||| c .inferredType) ++ c .outerPattern ++ t .in_ ++ c .expression
  | forElement => optional (t .await_) ++ t .for_ ++ c .forLoopParts ++ c .element
  | metadataEntry =>
      right 0
        (t .at_ ++ (t .name ||| c .scopedIdentifier)
            ++ optional (c .typeArguments ++ c .arguments ||| c .arguments))
  | classModifiers =>
      (c .sealedWord
       ||| optional (c .abstractWord)
             ++ optional (c .baseWord ||| c .interfaceWord ||| t .final_ ||| t .inline_))
        ++ t .class_
  | mixinClassModifiers =>
      optional (c .abstractWord) ++ optional (c .baseWord) ++ c .mixinWord ++ t .class_
  | classDefinition =>
      optional (c .metadata) ++ (c .classModifiers ||| c .mixinClassModifiers) ++ t .name
        ++ optional (c .typeParameters) ++ optional (c .superclass) ++ optional (c .interfaces)
        ++ c .classBody
      ||| optional (c .metadata) ++ c .classModifiers ++ c .mixinApplicationClass
  | metadata => right 0 (repeated (c .metadataEntry))
  | typeParameters => t .less ++ separated (c .typeParameter) ++ t .greater
  | typeParameter =>
      optional (c .metadata) ++ (t .name ||| c .nullableType) ++ optional (c .nullableType)
        ++ optional (c .typeBound)
  | typeBound => t .extends_ ++ c .typeNotVoid
  | superclass => t .extends_ ++ c .typeNotVoid ++ optional (c .mixins) ||| c .mixins
  | mixins => t .with_ ++ c .typeNotVoidList
  | mixinApplicationClass =>
      t .name ++ optional (c .typeParameters) ++ t .assign ++ c .mixinApplication
        ++ c .semicolon
  | mixinApplication => c .typeNotVoid ++ c .mixins ++ optional (c .interfaces)
  | interfaces => c .implementsWord ++ c .typeNotVoidList
  | classBody => t .block
  | classMemberDefinition =>
      c .declaration ++ c .semicolon ||| c .methodSignature ++ c .functionBody
  | getterSignature => optional (c .type) ++ c .getWord ++ t .name ++ optional (c .nativeMark)
  | setterSignature =>
      optional (c .type) ++ c .setWord ++ t .name ++ c .formalParameterPart
        ++ optional (c .nativeMark)
  | methodSignature =>
      c .constructorSignature ++ optional (c .initializers)
      ||| c .factoryConstructorSignature
      ||| optional (c .staticWord)
            ++ (c .functionSignature ||| c .getterSignature ||| c .setterSignature)
      ||| c .operatorSignature
  | declaration =>
      c .constantConstructorSignature ++ optional (c .redirection ||| c .initializers)
      ||| c .constructorSignature ++ optional (c .redirection ||| c .initializers)
      ||| c .externalModifier ++ optional (t .const_) ++ c .factoryConstructorSignature
      ||| optional (t .const_) ++ c .factoryConstructorSignature ++ c .nativeMark
      ||| c .externalModifier ++ c .constantConstructorSignature
      ||| c .redirectingFactoryConstructorSignature
      ||| c .externalModifier ++ c .constructorSignature
      ||| optional (c .externalWord) ++ optional (c .staticWord) ++ c .getterSignature
      ||| optional (c .externalAndStatic) ++ c .setterSignature
      ||| optional (c .externalModifier) ++ c .operatorSignature
      ||| optional (c .externalAndStatic) ++ c .functionSignature
      ||| c .staticWord ++ c .functionSignature
      ||| c .staticWord
            ++ (c .finalOrConst ++ optional (c .type) ++ c .staticFinalDeclarationList
                ||| c .lateWord
                      ++ (c .finalWord ++ optional (c .type) ++ c .initializedIdentifierList
                          ||| (c .type ||| c .inferredType) ++ c .initializedIdentifierList)
                ||| (c .type ||| c .inferredType) ++ c .initializedIdentifierList)
      ||| c .covariantWord
            ++ (c .lateWord
                  ++ (c .finalWord ++ optional (c .type) ++ c .identifierList
                      ||| (c .type ||| c .inferredType) ++ c .initializedIdentifierList)
                ||| (c .type ||| c .inferredType) ++ c .initializedIdentifierList)
      ||| optional (c .lateWord) ++ c .finalWord ++ optional (c .type)
            ++ c .initializedIdentifierList
      ||| optional (c .lateWord) ++ c .varOrType ++ c .initializedIdentifierList
  | identifierList => separated (t .name)
  | initializedIdentifierList => separated (c .initializedIdentifier)
  | initializedIdentifier => t .name ++ optional (t .assign ++ c .expression)
  | staticFinalDeclarationList => separated (c .staticFinalDeclaration)
  | binaryOperator =>
      c .multiplicativeOperator ||| c .additiveOperator ||| c .shiftOperator
        ||| c .relationalOperator ||| t .doubleAssign ||| c .bitwiseOperator
  | operatorSignature =>
      optional (c .type) ++ c .operatorWord
        ++ (t .tilde ||| c .binaryOperator ||| t .brackets ||| t .bracketsAssign)
        ++ c .formalParameterList ++ optional (c .nativeMark)
  | staticFinalDeclaration => t .name ++ t .assign ++ c .expression
  | externalAndStatic => c .externalModifier ++ optional (c .staticWord)
  | finalOrConst => c .finalWord ||| t .const_
  | initializers => t .colon ++ separated (c .initializerListEntry)
  | initializerListEntry =>
      c .super_ ++ c .arguments
      ||| c .super_ ++ t .dot ++ (t .name ||| c .newWord) ++ c .arguments
      ||| c .fieldInitializer
      ||| c .assertion
  | fieldInitializer =>
      optional (c .this_ ++ t .dot) ++ t .name ++ t .assign ++ c .realExpression
        ++ many (c .cascadeSection)
  | factoryConstructorSignature =>
      c .factoryWord ++ t .name ++ many (t .dot ++ t .name) ++ c .formalParameterList
  | redirectingFactoryConstructorSignature =>
      optional (t .const_) ++ c .factoryWord ++ t .name ++ many (t .dot ++ t .name)
        ++ c .formalParameterList ++ t .assign ++ c .typeNotVoid ++ optional (t .dot ++ t .name)
  | redirection =>
      t .colon ++ c .this_ ++ optional (t .dot ++ c .identifierOrNew) ++ c .arguments
  | constructorSignature =>
      t .name ++ optional (t .dot ++ c .identifierOrNew) ++ c .formalParameterList
  | constantConstructorSignature =>
      t .const_ ++ t .name ++ optional (t .dot ++ c .identifierOrNew) ++ c .formalParameterList
  | scopedIdentifier => (t .name ||| c .scopedIdentifier) ++ t .dot ++ t .name
  | initializedVariableDefinition =>
      c .declaredIdentifier ++ optional (t .assign ++ c .expression)
        ++ many (t .comma ++ c .initializedIdentifier)
  | declaredIdentifier =>
      optional (c .metadata) ++ optional (c .covariantWord) ++ c .finalConstVarOrType ++ t .name
  | finalConstVarOrType =>
      optional (c .lateWord) ++ c .finalWord ++ optional (c .type)
      ||| t .const_ ++ optional (c .type)
      ||| optional (c .lateWord) ++ c .varOrType
  | type => c .functionType ++ optional (c .nullableType) ||| c .typeNotFunction
  | typeNotFunction =>
      c .typeNotVoidNotFunction ||| c .recordType ++ optional (c .nullableType) ||| t .void_
  | typeNotVoidNotFunction =>
      c .typeName ++ optional (c .typeArguments) ++ optional (c .nullableType)
      ||| c .functionWord ++ optional (c .nullableType)
  | functionType => c .functionTypeTails ||| c .typeNotFunction ++ c .functionTypeTails
  | functionTypeTails => repeated (c .functionTypeTail)
  | functionTypeTail =>
      c .functionWord ++ optional (c .typeParameters) ++ optional (c .nullableType)
        ++ optional (c .parameterTypeList) ++ optional (c .nullableType)
  | parameterTypeList =>
      t .openParen
        ++ optional
             (listed (c .normalParameterType)
               ||| separated (c .normalParameterType) ++ t .comma ++ c .optionalParameterTypes
               ||| c .optionalParameterTypes) ++ t .closeParen
  | normalParameterType => optional (c .metadata) ++ (c .typedIdentifier ||| c .type)
  | optionalParameterTypes => c .optionalPositionalParameterTypes ||| c .namedParameterTypes
  | optionalPositionalParameterTypes =>
      t .openBracket ++ listed (c .normalParameterType) ++ t .closeBracket
  | namedParameterTypes => t .openBrace ++ listed (c .namedParameterType) ++ t .closeBrace
  | namedParameterType =>
      optional (c .metadata) ++ optional (c .requiredWord) ++ c .typedIdentifier
  | typeNotVoid =>
      c .functionType ++ optional (c .nullableType)
      ||| c .recordType ++ optional (c .nullableType)
      ||| c .typeNotVoidNotFunction
  | recordType =>
      t .openParen ++ t .closeParen
      ||| t .openParen ++ separated (c .recordTypeField) ++ t .comma ++ t .openBrace
            ++ listed (c .recordTypeNamedField) ++ t .closeBrace ++ t .closeParen
      ||| t .openParen ++ listed (c .recordTypeField) ++ t .closeParen
      ||| t .openParen ++ t .openBrace ++ listed (c .recordTypeNamedField) ++ t .closeBrace
            ++ t .closeParen
  | recordTypeField => optional (c .metadata) ++ c .type ++ optional (t .name)
  | recordTypeNamedField => optional (c .metadata) ++ c .typedIdentifier
  | typeNotVoidList => separated (c .typeNotVoid)
  | typeName => t .name ++ optional (c .typeDotIdentifier)
  | typeDotIdentifier => right 19 (t .dot ++ t .name)
  | typedIdentifier => c .type ++ t .name
  | nullableType => t .question
  | nullableSelector => t .question
  | varOrType => c .type ||| c .inferredType ++ optional (c .type)
  | finalVarOrType => c .inferredType ||| c .finalWord ||| optional (c .finalWord) ++ c .type
  | inferredType => t .var_
  | functionBody =>
      optional (t .async_) ++ t .arrow ++ c .expression ++ c .semicolon
      ||| optional (t .async_ ||| t .asyncStar ||| t .syncStar) ++ c .block
  | functionExpressionBody =>
      optional (t .async_) ++ t .arrow ++ (c .expression ||| t .missing)
      ||| optional (t .async_ ||| t .asyncStar ||| t .syncStar) ++ c .block
  | functionSignature =>
      optional (c .type) ++ (c .getWord ||| c .setWord ||| t .name) ++ c .formalParameterPart
        ++ optional (c .nativeMark)
  | formalParameterPart => optional (c .typeParameters) ++ c .formalParameterList
  | formalParameterList => c .strictParameterList
  | strictParameterList =>
      t .openParen ++ t .closeParen
      ||| t .openParen ++ c .normalFormalParameters ++ optional (t .comma) ++ t .closeParen
      ||| t .openParen ++ c .normalFormalParameters ++ t .comma ++ c .optionalFormalParameters
            ++ t .closeParen
      ||| t .openParen ++ c .optionalFormalParameters ++ t .closeParen
  | normalFormalParameters => separated (c .formalParameter)
  | optionalFormalParameters => c .optionalPositionalParameters ||| c .namedFormalParameters
  | optionalPositionalParameters =>
      t .openBracket ++ listed (c .defaultFormalParameter) ++ t .closeBracket
  | namedFormalParameters => t .openBrace ++ listed (c .defaultNamedParameter) ++ t .closeBrace
  | formalParameter => c .normalFormalParameter
  | defaultFormalParameter => c .formalParameter ++ optional (t .assign ++ c .expression)
  | defaultNamedParameter =>
      optional (c .metadata) ++ optional (c .requiredWord) ++ c .formalParameter
        ++ optional (t .assign ++ c .expression)
      ||| optional (c .metadata) ++ optional (c .requiredWord) ++ c .formalParameter
            ++ optional (t .colon ++ c .expression)
  | normalFormalParameter =>
      optional (c .metadata)
        ++ (c .functionFormalParameter ||| c .simpleFormalParameter ||| c .constructorParam
              ||| c .superFormalParameter)
  | functionFormalParameter =>
      optional (c .covariantWord) ++ optional (c .type) ++ t .name ++ c .formalParameterPart
        ++ optional (c .nullableType)
  | simpleFormalParameter => c .declaredIdentifier ||| optional (c .covariantWord) ++ t .name
  | superFormalParameter =>
      optional (c .finalConstVarOrType) ++ c .super_ ++ t .dot ++ t .name
        ++ optional (c .formalParameterPart)
  | constructorParam =>
      optional (c .finalConstVarOrType) ++ c .this_ ++ t .dot ++ t .name
        ++ optional (c .formalParameterPart)
  | localVariableDeclaration =>
      optional (c .metadata) ++ c .initializedVariableDefinition ++ c .semicolon
      ||| optional (c .metadata) ++ c .patternVariableDeclaration ++ c .semicolon
  | identifierOrNew => t .name ||| c .newWord
  | qualified =>
      c .typeName ++ t .dot ++ c .identifierOrNew
      ||| c .typeName ++ t .dot ++ c .typeName ++ t .dot ++ c .identifierOrNew
  | covariantWord => t .covariant_
  | externalModifier => c .externalWord
  | factoryWord => t .factory_
  | functionWord => t .function_
  | getWord => t .get_
  | nativeMark => t .native_ ++ optional (c .stringLiteral)
  | implementsWord => t .implements_
  | interfaceWord => t .interface_
  | baseWord => t .base_
  | abstractWord => t .abstract_
  | sealedWord => t .sealed_
  | operatorWord => t .operator_
  | mixinWord => t .mixin_
  | requiredWord => t .required_
  | setWord => t .set_
  | staticWord => t .static_
  | newWord => t .new_
  | logicalAndOperator => t .bothTrue
  | logicalOrOperator => t .oneTrue
  | finalWord => t .final_
  | lateWord => t .late_
  | externalWord => t .external_
  | this_ => t .this_
  | super_ => t .super_
  | label => t .name ++ t .colon
  | semicolon => t .semicolon
  | classUnit => c .classDefinition
  | memberUnit => optional (c .metadata) ++ c .classMemberDefinition

end Construct

end RouteGraft.Dart
