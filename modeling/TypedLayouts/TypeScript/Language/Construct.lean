import TypedLayouts.TypeScript.Tree

/-!
# Constructs

What the rules of the language are about. A construct is named for what it is; those that are hidden
only group others, and their parts stand directly in the construct around them.
-/

namespace TypedLayouts.TypeScript

/-- The constructs of the language, in the order in which they are met first from a file on. -/
inductive Construct where
  | file | exportStatement | namespaceExport | exportClause | exportSpecifier | exportedName
  | declaration | importCallee | importStatement | importClause | fromClause | namespaceImport
  | namedImports | importSpecifier | importAttributes | statement | expressionStatement
  | variableDeclaration | lexicalDeclaration | usingDeclaration | variableDeclarator
  | statementBlock | elseClause | ifStatement | switchStatement | forStatement | forInStatement
  | forHeader | whileStatement | doStatement | tryStatement | withStatement | breakStatement
  | continueStatement | debuggerStatement | returnStatement | throwStatement | emptyStatement
  | labeledStatement | switchBody | switchCase | switchDefault | catchClause | finallyClause
  | parenthesizedExpression | expressions | expression | primaryExpression | yieldExpression
  | object | objectPattern | assignmentPattern | objectAssignmentPattern | array | arrayPattern
  | nestedIdentifier | classExpression | classDeclaration | classHeritage | functionExpression
  | functionDeclaration | generatorFunction | generatorFunctionDeclaration | arrowFunction
  | signature | parameter | optionalChain | callExpression | newExpression | awaitExpression
  | memberExpression | subscriptExpression | target | assignmentExpression | updatedTarget
  | augmentedAssignmentExpression | initialValue | destructuringPattern | spreadElement
  | ternaryExpression | binaryExpression | unaryExpression | updateExpression | sequenceExpression
  | string | templateString | templateSubstitution | regularExpression | plainName | metaProperty
  | arguments | decorator | decoratorMemberExpression | decoratorCallExpression | classBody
  | formalParameters | classStaticBlock | pattern | restPattern | methodDefinition | pair
  | pairPattern | propertyKey | computedPropertyName | contextualName | statementEnd
  | publicFieldDefinition | nonNullExpression | importedName | methodSignature
  | abstractMethodSignature | functionSignature | decoratorParenthesizedExpression | typeAssertion
  | asExpression | satisfiesExpression | instantiationExpression | importRequireClause
  | extendsClause | extendedValue | implementsClause | ambientDeclaration | abstractClassDeclaration
  | moduleDeclaration | namespaceDeclaration | moduleContents | importAlias | nestedTypeIdentifier
  | interfaceDeclaration | extendsTypeClause | enumDeclaration | enumBody | enumAssignment
  | typeAliasDeclaration | accessibilityModifier | overrideModifier | requiredParameter
  | optionalParameter | parameterName | omittedType | addedType | optedType | annotatedType
  | importTypeMember | importTypeCall | assertion | annotatedAssertion | type | tupleParameter
  | optionalTupleParameter | optionalType | restType | tupleMember | constructorType | primaryType
  | templateType | templateLiteralType | inferType | conditionalType | genericType | typePredicate
  | annotatedPredicate | queriedMember | queriedElement | queriedCall | queriedInstance | typeQuery
  | indexTypeQuery | lookupType | mappedTypeClause | literalType | signedNumber | anyType
  | maybeType | parenthesizedType | predefinedType | typeArguments | objectType | callSignature
  | propertySignature | typeParameters | typeParameter | defaultType | constraint
  | constructSignature | indexSignature | arrayType | tupleType | readonlyType | unionType
  | intersectionType | functionType | typeName
  deriving DecidableEq, Hashable, Repr

namespace Construct

/-- All constructs in their order. -/
def all : List Construct := [
  file, exportStatement, namespaceExport, exportClause, exportSpecifier, exportedName, declaration,
  importCallee, importStatement, importClause, fromClause, namespaceImport, namedImports,
  importSpecifier, importAttributes, statement, expressionStatement, variableDeclaration,
  lexicalDeclaration, usingDeclaration, variableDeclarator, statementBlock, elseClause, ifStatement,
  switchStatement, forStatement, forInStatement, forHeader, whileStatement, doStatement,
  tryStatement, withStatement, breakStatement, continueStatement, debuggerStatement,
  returnStatement, throwStatement, emptyStatement, labeledStatement, switchBody, switchCase,
  switchDefault, catchClause, finallyClause, parenthesizedExpression, expressions, expression,
  primaryExpression, yieldExpression, object, objectPattern, assignmentPattern,
  objectAssignmentPattern, array, arrayPattern, nestedIdentifier, classExpression, classDeclaration,
  classHeritage, functionExpression, functionDeclaration, generatorFunction,
  generatorFunctionDeclaration, arrowFunction, signature, parameter, optionalChain, callExpression,
  newExpression, awaitExpression, memberExpression, subscriptExpression, target,
  assignmentExpression, updatedTarget, augmentedAssignmentExpression, initialValue,
  destructuringPattern, spreadElement, ternaryExpression, binaryExpression, unaryExpression,
  updateExpression, sequenceExpression, string, templateString, templateSubstitution,
  regularExpression, plainName, metaProperty, arguments, decorator, decoratorMemberExpression,
  decoratorCallExpression, classBody, formalParameters, classStaticBlock, pattern, restPattern,
  methodDefinition, pair, pairPattern, propertyKey, computedPropertyName, contextualName,
  statementEnd, publicFieldDefinition, nonNullExpression, importedName, methodSignature,
  abstractMethodSignature, functionSignature, decoratorParenthesizedExpression, typeAssertion,
  asExpression, satisfiesExpression, instantiationExpression, importRequireClause, extendsClause,
  extendedValue, implementsClause, ambientDeclaration, abstractClassDeclaration, moduleDeclaration,
  namespaceDeclaration, moduleContents, importAlias, nestedTypeIdentifier, interfaceDeclaration,
  extendsTypeClause, enumDeclaration, enumBody, enumAssignment, typeAliasDeclaration,
  accessibilityModifier, overrideModifier, requiredParameter, optionalParameter, parameterName,
  omittedType, addedType, optedType, annotatedType, importTypeMember, importTypeCall, assertion,
  annotatedAssertion, type, tupleParameter, optionalTupleParameter, optionalType, restType,
  tupleMember, constructorType, primaryType, templateType, templateLiteralType, inferType,
  conditionalType, genericType, typePredicate, annotatedPredicate, queriedMember, queriedElement,
  queriedCall, queriedInstance, typeQuery, indexTypeQuery, lookupType, mappedTypeClause,
  literalType, signedNumber, anyType, maybeType, parenthesizedType, predefinedType, typeArguments,
  objectType, callSignature, propertySignature, typeParameters, typeParameter, defaultType,
  constraint, constructSignature, indexSignature, arrayType, tupleType, readonlyType, unionType,
  intersectionType, functionType, typeName]

/-- The constructs without a node of their own. -/
def hidden : List Construct := [
  exportedName, declaration, fromClause, statement, forHeader, expressions, expression,
  primaryExpression, signature, parameter, target, updatedTarget, initialValue,
  destructuringPattern, plainName, pattern, propertyKey, contextualName, statementEnd, importedName,
  extendedValue, moduleContents, parameterName, importTypeMember, importTypeCall, type, tupleMember,
  primaryType, queriedMember, queriedElement, queriedCall, queriedInstance, signedNumber, typeName]

/-- The constructs that are replaced by what their rules say, wherever they are mentioned. -/
def inlined : List Construct :=
  [expressions, target, plainName, contextualName, statementEnd, typeName]

/-- The kind of a construct's node. -/
def kind : Construct → Kind
  | file => .file
  | exportStatement => .exportStatement
  | variableDeclaration => .variableDeclaration
  | lexicalDeclaration => .lexicalDeclaration
  | variableDeclarator => .declarator
  | parenthesizedExpression => .parenthesized
  | object => .object
  | arrowFunction => .arrowFunction
  | callExpression => .call
  | string => .string
  | pair => .pair
  | asExpression => .asType
  | satisfiesExpression => .satisfiesType
  | _ => .other

end Construct

end TypedLayouts.TypeScript
