import TypedLayouts.TypeScript.Language.Rule

/-!
# Patterns

What can be assigned to: names, places inside of values, and patterns that take a value apart.
-/

namespace TypedLayouts.TypeScript

open Rule Construct

/-- The rules of this module's constructs. -/
def Rules.ofPatterns : List (Construct × Rule) := [
  (target,
    oneOf [oneOf [memberExpression, subscriptExpression, plainName,
        shownAs .identifier contextualName, destructuringPattern], nonNullExpression]),
  (pattern, favoured (-1) (oneOf [target, restPattern])),
  (restPattern, rightward (seq ["...", target])),
  (destructuringPattern, oneOf [objectPattern, arrayPattern]),
  (objectPattern,
    ranked .object (seq ["\x7b",
      commas (maybe (oneOf [pairPattern, restPattern, objectAssignmentPattern,
        shownAs .other (oneOf [Token.name, contextualName])])), "\x7d"])),
  (pairPattern, seq [propertyKey, ":", oneOf [pattern, assignmentPattern]]),
  (objectAssignmentPattern,
    seq [oneOf [shownAs .other (oneOf [contextualName, Token.name]), destructuringPattern], "=",
      expression]),
  (arrayPattern, seq ["[", commas (maybe (oneOf [pattern, assignmentPattern])), "]"]),
  (assignmentPattern, seq [pattern, "=", expression])]

end TypedLayouts.TypeScript
