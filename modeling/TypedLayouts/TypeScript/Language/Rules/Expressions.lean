import TypedLayouts.TypeScript.Language.Rule

/-!
# Expressions

Expressions with their operators, calls and the like.
-/

namespace TypedLayouts.TypeScript

open Rule Construct

/-- The rules of this module's constructs. -/
def Rules.ofExpressions : List (Construct × Rule) := [
  (expressions, oneOf [expression, sequenceExpression]),
  (expression,
    oneOf [asExpression, satisfiesExpression, instantiationExpression, namespaceDeclaration,
      typeAssertion, primaryExpression, assignmentExpression, augmentedAssignmentExpression,
      awaitExpression, unaryExpression, binaryExpression, ternaryExpression, updateExpression,
      newExpression, yieldExpression]),
  (primaryExpression,
    oneOf [oneOf [subscriptExpression, memberExpression, parenthesizedExpression, plainName,
        shownAs .identifier contextualName, "this", "super", Token.number, string, templateString,
        regularExpression, "true", "false", "null", object, array, functionExpression,
        arrowFunction, generatorFunction, classExpression, metaProperty, callExpression],
      nonNullExpression]),
  (parenthesizedExpression,
    seq ["(", oneOf [seq [expression, maybe annotatedType], sequenceExpression], ")"]),
  (sequenceExpression, rightward (commas1 expression)),
  (plainName, oneOf ["undefined", Token.name]),
  (contextualName,
    oneOf ["declare", "namespace", "type", "public", "private", "protected", "override", "readonly",
      "module", "any", "number", "boolean", "string", "symbol", "export", "object", "new",
      oneOf ["get", "set", "async", "static", "export", "let"]]),
  (yieldExpression, rightward (seq ["yield", oneOf [seq ["*", expression], maybe expression]])),
  (awaitExpression, ranked .unary (seq ["await", expression])),
  (unaryExpression,
    ranked .unary (leftward (seq [oneOf ["!", "~", "-", "+", "typeof", "void", "delete"],
      expression]))),
  (binaryExpression,
    oneOf [ranked .and (leftward (seq [expression, "&&", expression])),
      ranked .or (leftward (seq [expression, "||", expression])),
      ranked .shift (leftward (seq [expression, ">>", expression])),
      ranked .shift (leftward (seq [expression, ">>>", expression])),
      ranked .shift (leftward (seq [expression, "<<", expression])),
      ranked .bitAnd (leftward (seq [expression, "&", expression])),
      ranked .bitXor (leftward (seq [expression, "^", expression])),
      ranked .bitOr (leftward (seq [expression, "|", expression])),
      ranked .plus (leftward (seq [expression, "+", expression])),
      ranked .plus (leftward (seq [expression, "-", expression])),
      ranked .times (leftward (seq [expression, "*", expression])),
      ranked .times (leftward (seq [expression, "/", expression])),
      ranked .times (leftward (seq [expression, "%", expression])),
      ranked .power (rightward (seq [expression, "**", expression])),
      ranked .relation (leftward (seq [expression, "<", expression])),
      ranked .relation (leftward (seq [expression, "<=", expression])),
      ranked .equality (leftward (seq [expression, "==", expression])),
      ranked .equality (leftward (seq [expression, "===", expression])),
      ranked .equality (leftward (seq [expression, "!=", expression])),
      ranked .equality (leftward (seq [expression, "!==", expression])),
      ranked .relation (leftward (seq [expression, ">=", expression])),
      ranked .relation (leftward (seq [expression, ">", expression])),
      ranked .conditional (leftward (seq [expression, "??", expression])),
      ranked .relation (leftward (seq [expression, "instanceof", expression])),
      ranked .relation (leftward (seq [oneOf [expression, Token.privateName], "in", expression]))]),
  (ternaryExpression,
    ranked .conditional (rightward (seq [expression, shownAsMark Token.choiceMark, expression, ":",
      expression]))),
  (updateExpression,
    leftward (oneOf [seq [expression, oneOf ["++", "--"]], seq [oneOf ["++", "--"], expression]])),
  (assignmentExpression,
    ranked .assign (rightward (seq [oneOf [parenthesizedExpression, target], "=", expression]))),
  (augmentedAssignmentExpression,
    ranked .assign (rightward (seq [updatedTarget,
      oneOf ["+=", "-=", "*=", "/=", "%=", "^=", "&=", "|=", ">>=", ">>>=", "<<=", "**=", "&&=",
        "||=", "??="], expression]))),
  (updatedTarget,
    oneOf [oneOf [memberExpression, subscriptExpression, shownAs .identifier contextualName,
        Token.name, parenthesizedExpression], nonNullExpression]),
  (memberExpression,
    ranked .member (seq [oneOf [expression, primaryExpression, importCallee],
      oneOf [".", optionalChain],
      oneOf [Token.privateName, anyWord (shownAs .propertyName Token.name)]])),
  (optionalChain, "?."),
  (subscriptExpression,
    ranked .member (rightward (seq [oneOf [expression, primaryExpression], maybe optionalChain, "[",
      expressions, "]"]))),
  (callExpression,
    oneOf [ranked .call (seq [oneOf [expression, importCallee], maybe typeArguments, arguments]),
      ranked .templateCall (seq [oneOf [primaryExpression, newExpression], templateString]),
      ranked .member (seq [primaryExpression, "?.", maybe typeArguments, arguments])]),
  (arguments, seq ["(", commas (maybe (oneOf [expression, spreadElement])), ")"]),
  (spreadElement, seq ["...", expression]),
  (newExpression,
    ranked .creation (rightward (seq ["new", primaryExpression, maybe typeArguments,
      maybe arguments]))),
  (metaProperty, oneOf [seq ["new", ".", "target"], seq ["import", ".", "meta"]]),
  (importCallee, "import"),
  (nonNullExpression, ranked .typedUnary (leftward (seq [expression, "!"]))),
  (asExpression, ranked .typedBinary (leftward (seq [expression, "as", oneOf ["const", type]]))),
  (satisfiesExpression, ranked .typedBinary (leftward (seq [expression, "satisfies", type]))),
  (instantiationExpression, ranked .instantiation (seq [expression, typeArguments])),
  (typeAssertion, ranked .typedUnary (leftward (seq [typeArguments, expression])))]

end TypedLayouts.TypeScript
