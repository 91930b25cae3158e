import TypedLayouts.TypeScript.Language.Rule

/-!
# Functions

Functions and their parameters.
-/

namespace TypedLayouts.TypeScript

open Rule Construct

/-- The rules of this module's constructs. -/
def Rules.ofFunctions : List (Construct × Rule) := [
  (functionExpression,
    ranked .literal (seq [maybe "async", "function", maybe Token.name, signature, statementBlock])),
  (generatorFunction,
    ranked .literal (seq [maybe "async", "function", "*", maybe Token.name, signature,
      statementBlock])),
  (arrowFunction,
    seq [maybe "async", oneOf [oneOf [shownAs .identifier contextualName, Token.name], signature],
      "=>", role .body (oneOf [expression, statementBlock])]),
  (signature,
    seq [maybe typeParameters, formalParameters,
      maybe (oneOf [annotatedType, annotatedAssertion, annotatedPredicate])]),
  (formalParameters, seq ["(", maybe (seq [commas1 parameter, maybe ","]), ")"]),
  (parameter, oneOf [requiredParameter, optionalParameter]),
  (requiredParameter, seq [parameterName, maybe annotatedType, maybe initialValue]),
  (optionalParameter, seq [parameterName, "?", maybe annotatedType, maybe initialValue]),
  (parameterName,
    seq [many decorator, maybe accessibilityModifier, maybe overrideModifier, maybe "readonly",
      oneOf [pattern, "this"]]),
  (accessibilityModifier, oneOf ["public", "private", "protected"]),
  (overrideModifier, "override")]

end TypedLayouts.TypeScript
