/-!
# Constructs of Dart

A `Construct` is something the grammar of Dart has a rule for: a literal, an
expression, a pattern, a type, a parameter, a member, a class.  Most of them
have a node of their own in a syntax tree, which goes by their name (`name?`).
The other ones, such as an expression of any kind, only group the rules, and
their parts belong to the construct around them.

The constructs are listed in the order of their rules.  The order decides
between readings of a text that are otherwise equal.

The last two are the texts that are read on their own: a class, without what is
in its body, and a member of a class with its annotations.
-/

namespace RouteGraft.Dart

/-- What the grammar has rules for. -/
inductive Construct where
  | boolLiteral | numericLiteral | literal | symbolLiteral | trueLiteral | falseLiteral
  | stringLiteral | listLiteral | setOrMapLiteral | pair | element | nullLiteral
  | recordLiteral | recordLiteralNoConst | recordField | expression
  | expressionWithoutCascade | realExpression | throwExpression
  | throwExpressionWithoutCascade | rethrowExpression | assignmentExpression
  | assignmentExpressionWithoutCascade | assignableExpression | assignableSelectorPart
  | assignmentOperator | functionExpression | ifNullExpression | ifNullTail
  | conditionalExpression | logicalOrExpression | logicalAndExpression
  | equalityExpression | typeCastExpression | typeTestExpression | relationalExpression
  | relationalOperator | bitwiseOrExpression | bitwiseXorExpression
  | bitwiseAndExpression | shiftExpression | additiveExpression
  | multiplicativeExpression | bitwiseOperator | bitwiseSign | shiftOperator | shiftSign
  | additiveOperator | multiplicativeOperator | multiplicativeSign | unaryOperand
  | unaryExpression | postfixOperand | postfixExpression | postfixOperator
  | spreadElement | selector | prefixOperator | negationOperator | bangSign
  | tildeOperator | awaitExpression | typeTest | isOperator | typeCast | asOperator
  | newExpression | dotIdentifier | constObjectExpression | primary
  | parenthesizedExpression | constructorInvocation | constructorTearoff | arguments
  | argumentList | anyArgument | argument | namedArgument | cascadeSection
  | cascadeSubsection | cascadeAssignmentSection | indexSelector | cascadeSelector
  | argumentPart | unconditionalAssignableSelector | conditionalAssignableSelector
  | assignableSelector | typeArguments | block | assertion | assertionArguments
  | switchExpression | switchExpressionCase | guardedPattern | pattern
  | logicalOrPattern | logicalAndPattern | relationalPattern | unaryPattern
  | primaryPattern | castPattern | nullCheckPattern | nullAssertPattern
  | constantPattern | variablePattern | parenthesizedPattern | listPattern
  | listPatternElement | restPattern | mapPattern | mapPatternEntry | recordPattern
  | patternField | objectPattern | patternVariableDeclaration | outerPattern
  | patternAssignment | ifElement | forLoopParts | forLoopHeader | forElement
  | metadataEntry | classModifiers | mixinClassModifiers | classDefinition | metadata
  | typeParameters | typeParameter | typeBound | superclass | mixins
  | mixinApplicationClass | mixinApplication | interfaces | classBody
  | classMemberDefinition | getterSignature | setterSignature | methodSignature
  | declaration | identifierList | initializedIdentifierList | initializedIdentifier
  | staticFinalDeclarationList | binaryOperator | operatorSignature
  | staticFinalDeclaration | externalAndStatic | finalOrConst | initializers
  | initializerListEntry | fieldInitializer | factoryConstructorSignature
  | redirectingFactoryConstructorSignature | redirection | constructorSignature
  | constantConstructorSignature | scopedIdentifier | initializedVariableDefinition
  | declaredIdentifier | finalConstVarOrType | type | typeNotFunction
  | typeNotVoidNotFunction | functionType | functionTypeTails | functionTypeTail
  | parameterTypeList | normalParameterType | optionalParameterTypes
  | optionalPositionalParameterTypes | namedParameterTypes | namedParameterType
  | typeNotVoid | recordType | recordTypeField | recordTypeNamedField | typeNotVoidList
  | typeName | typeDotIdentifier | typedIdentifier | nullableType | nullableSelector
  | varOrType | finalVarOrType | inferredType | functionBody | functionExpressionBody
  | functionSignature | formalParameterPart | formalParameterList | strictParameterList
  | normalFormalParameters | optionalFormalParameters | optionalPositionalParameters
  | namedFormalParameters | formalParameter | defaultFormalParameter
  | defaultNamedParameter | normalFormalParameter | functionFormalParameter
  | simpleFormalParameter | superFormalParameter | constructorParam
  | localVariableDeclaration | identifierOrNew | qualified | covariantWord
  | externalModifier | factoryWord | functionWord | getWord | nativeMark
  | implementsWord | interfaceWord | baseWord | abstractWord | sealedWord | operatorWord
  | mixinWord | requiredWord | setWord | staticWord | newWord | logicalAndOperator
  | logicalOrOperator | finalWord | lateWord | externalWord | this_ | super_ | label
  | semicolon | classUnit | memberUnit
  deriving DecidableEq, Repr

namespace Construct

/-- The number of constructs. -/
def count : Nat := memberUnit.ctorIdx + 1

/-- Every construct, in order. -/
def all : List Construct := (List.range count).map ofNat

/-- The name of a construct in a syntax tree, if it has a node there. -/
def name? : Construct → Option String
  | symbolLiteral => some "symbol_literal"
  | trueLiteral => some "true"
  | falseLiteral => some "false"
  | stringLiteral => some "string_literal"
  | listLiteral => some "list_literal"
  | setOrMapLiteral => some "set_or_map_literal"
  | pair => some "pair"
  | nullLiteral => some "null_literal"
  | recordLiteral => some "record_literal"
  | recordField => some "record_field"
  | throwExpression => some "throw_expression"
  | throwExpressionWithoutCascade => some "throw_expression_without_cascade"
  | rethrowExpression => some "rethrow_expression"
  | assignmentExpression => some "assignment_expression"
  | assignmentExpressionWithoutCascade => some "assignment_expression_without_cascade"
  | assignableExpression => some "assignable_expression"
  | functionExpression => some "function_expression"
  | ifNullExpression => some "if_null_expression"
  | conditionalExpression => some "conditional_expression"
  | logicalOrExpression => some "logical_or_expression"
  | logicalAndExpression => some "logical_and_expression"
  | equalityExpression => some "equality_expression"
  | typeCastExpression => some "type_cast_expression"
  | typeTestExpression => some "type_test_expression"
  | relationalExpression => some "relational_expression"
  | relationalOperator => some "relational_operator"
  | bitwiseOrExpression => some "bitwise_or_expression"
  | bitwiseXorExpression => some "bitwise_xor_expression"
  | bitwiseAndExpression => some "bitwise_and_expression"
  | shiftExpression => some "shift_expression"
  | additiveExpression => some "additive_expression"
  | multiplicativeExpression => some "multiplicative_expression"
  | bitwiseOperator => some "bitwise_operator"
  | shiftOperator => some "shift_operator"
  | additiveOperator => some "additive_operator"
  | multiplicativeOperator => some "multiplicative_operator"
  | unaryExpression => some "unary_expression"
  | postfixExpression => some "postfix_expression"
  | postfixOperator => some "postfix_operator"
  | spreadElement => some "spread_element"
  | selector => some "selector"
  | prefixOperator => some "prefix_operator"
  | negationOperator => some "negation_operator"
  | tildeOperator => some "tilde_operator"
  | awaitExpression => some "await_expression"
  | typeTest => some "type_test"
  | isOperator => some "is_operator"
  | typeCast => some "type_cast"
  | asOperator => some "as_operator"
  | newExpression => some "new_expression"
  | constObjectExpression => some "const_object_expression"
  | parenthesizedExpression => some "parenthesized_expression"
  | constructorInvocation => some "constructor_invocation"
  | constructorTearoff => some "constructor_tearoff"
  | arguments => some "arguments"
  | argument => some "argument"
  | namedArgument => some "named_argument"
  | cascadeSection => some "cascade_section"
  | indexSelector => some "index_selector"
  | cascadeSelector => some "cascade_selector"
  | argumentPart => some "argument_part"
  | unconditionalAssignableSelector => some "unconditional_assignable_selector"
  | conditionalAssignableSelector => some "conditional_assignable_selector"
  | typeArguments => some "type_arguments"
  | block => some "block"
  | assertion => some "assertion"
  | assertionArguments => some "assertion_arguments"
  | switchExpression => some "switch_expression"
  | switchExpressionCase => some "switch_expression_case"
  | castPattern => some "cast_pattern"
  | nullCheckPattern => some "null_check_pattern"
  | nullAssertPattern => some "null_assert_pattern"
  | constantPattern => some "constant_pattern"
  | variablePattern => some "variable_pattern"
  | listPattern => some "list_pattern"
  | restPattern => some "rest_pattern"
  | mapPattern => some "map_pattern"
  | recordPattern => some "record_pattern"
  | objectPattern => some "object_pattern"
  | patternVariableDeclaration => some "pattern_variable_declaration"
  | patternAssignment => some "pattern_assignment"
  | ifElement => some "if_element"
  | forLoopParts => some "for_loop_parts"
  | forElement => some "for_element"
  | metadataEntry => some "annotation"
  | classDefinition => some "class_definition"
  | typeParameters => some "type_parameters"
  | typeParameter => some "type_parameter"
  | typeBound => some "type_bound"
  | superclass => some "superclass"
  | mixins => some "mixins"
  | mixinApplicationClass => some "mixin_application_class"
  | mixinApplication => some "mixin_application"
  | interfaces => some "interfaces"
  | classBody => some "class_body"
  | getterSignature => some "getter_signature"
  | setterSignature => some "setter_signature"
  | methodSignature => some "method_signature"
  | declaration => some "declaration"
  | identifierList => some "identifier_list"
  | initializedIdentifierList => some "initialized_identifier_list"
  | initializedIdentifier => some "initialized_identifier"
  | staticFinalDeclarationList => some "static_final_declaration_list"
  | binaryOperator => some "binary_operator"
  | operatorSignature => some "operator_signature"
  | staticFinalDeclaration => some "static_final_declaration"
  | initializers => some "initializers"
  | initializerListEntry => some "initializer_list_entry"
  | fieldInitializer => some "field_initializer"
  | factoryConstructorSignature => some "factory_constructor_signature"
  | redirectingFactoryConstructorSignature => some "redirecting_factory_constructor_signature"
  | redirection => some "redirection"
  | constructorSignature => some "constructor_signature"
  | constantConstructorSignature => some "constant_constructor_signature"
  | scopedIdentifier => some "scoped_identifier"
  | initializedVariableDefinition => some "initialized_variable_definition"
  | functionType => some "function_type"
  | parameterTypeList => some "parameter_type_list"
  | normalParameterType => some "normal_parameter_type"
  | optionalParameterTypes => some "optional_parameter_types"
  | optionalPositionalParameterTypes => some "optional_positional_parameter_types"
  | namedParameterTypes => some "named_parameter_types"
  | recordType => some "record_type"
  | recordTypeField => some "record_type_field"
  | recordTypeNamedField => some "record_type_named_field"
  | typedIdentifier => some "typed_identifier"
  | nullableType => some "nullable_type"
  | nullableSelector => some "nullable_selector"
  | inferredType => some "inferred_type"
  | functionBody => some "function_body"
  | functionExpressionBody => some "function_expression_body"
  | functionSignature => some "function_signature"
  | formalParameterList => some "formal_parameter_list"
  | optionalFormalParameters => some "optional_formal_parameters"
  | formalParameter => some "formal_parameter"
  | superFormalParameter => some "super_formal_parameter"
  | constructorParam => some "constructor_param"
  | localVariableDeclaration => some "local_variable_declaration"
  | qualified => some "qualified"
  | interfaceWord => some "interface"
  | baseWord => some "base"
  | abstractWord => some "abstract"
  | sealedWord => some "sealed"
  | mixinWord => some "mixin"
  | logicalAndOperator => some "logical_and_operator"
  | logicalOrOperator => some "logical_or_operator"
  | finalWord => some "final_builtin"
  | this_ => some "this"
  | super_ => some "super"
  | label => some "label"
  | _ => none

end Construct

end RouteGraft.Dart
