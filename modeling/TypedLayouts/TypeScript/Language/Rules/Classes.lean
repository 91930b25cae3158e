import TypedLayouts.TypeScript.Language.Rule

/-!
# Classes

Classes, their members and decorators.
-/

namespace TypedLayouts.TypeScript

open Rule Construct

/-- The rules of this module's constructs. -/
def Rules.ofClasses : List (Construct × Rule) := [
  (classExpression,
    ranked .literal (seq [many decorator, "class", maybe typeName, maybe typeParameters,
      maybe classHeritage, classBody])),
  (classHeritage, oneOf [seq [extendsClause, maybe implementsClause], implementsClause]),
  (extendsClause, seq ["extends", commas1 extendedValue]),
  (extendedValue, ranked .heritage (seq [expression, maybe typeArguments])),
  (implementsClause, seq ["implements", commas1 type]),
  (classBody,
    seq ["\x7b",
      many (oneOf [seq [many decorator, methodDefinition, maybe statementEnd],
        seq [methodSignature, oneOf [Token.signatureEnd, ","]], classStaticBlock,
        seq [
          oneOf [abstractMethodSignature, indexSignature, methodSignature, publicFieldDefinition],
          oneOf [statementEnd, ","]], ";"]), "\x7d"]),
  (classStaticBlock, seq ["static", statementBlock]),
  (methodDefinition,
    leftward (seq [maybe accessibilityModifier, maybe "static", maybe overrideModifier,
      maybe "readonly", maybe "async", maybe (oneOf ["get", "set", "*"]), propertyKey, maybe "?",
      signature, statementBlock])),
  (methodSignature,
    seq [maybe accessibilityModifier, maybe "static", maybe overrideModifier, maybe "readonly",
      maybe "async", maybe (oneOf ["get", "set", "*"]), propertyKey, maybe "?", signature]),
  (abstractMethodSignature,
    seq [maybe accessibilityModifier, "abstract", maybe overrideModifier,
      maybe (oneOf ["get", "set", "*"]), propertyKey, maybe "?", signature]),
  (publicFieldDefinition,
    seq [many decorator,
      maybe (oneOf [seq ["declare", maybe accessibilityModifier],
        seq [accessibilityModifier, maybe "declare"]]),
      oneOf [seq [maybe "static", maybe overrideModifier, maybe "readonly"],
        seq [maybe "abstract", maybe "readonly"], seq [maybe "readonly", maybe "abstract"],
        maybe "accessor"], propertyKey, maybe (oneOf ["?", "!"]), maybe annotatedType,
      maybe initialValue]),
  (decorator,
    seq ["@",
      oneOf [Token.name, decoratorMemberExpression, decoratorCallExpression,
        decoratorParenthesizedExpression]]),
  (decoratorMemberExpression,
    ranked .member (seq [oneOf [Token.name, decoratorMemberExpression], ".",
      shownAs .propertyName Token.name])),
  (decoratorCallExpression,
    ranked .call (seq [oneOf [Token.name, decoratorMemberExpression], maybe typeArguments,
      arguments])),
  (decoratorParenthesizedExpression,
    seq ["(", oneOf [Token.name, decoratorMemberExpression, decoratorCallExpression], ")"])]

end TypedLayouts.TypeScript
