import TypedLayouts.TypeScript.Language.Rule

/-!
# Literals

Texts, templates, regular expressions, objects and arrays.
-/

namespace TypedLayouts.TypeScript

open Rule Construct

/-- The rules of this module's constructs. -/
def Rules.ofLiterals : List (Construct × Rule) := [
  (string,
    oneOf [seq ["\"", many (oneOf [Token.doubleQuotedText, Token.escape]), "\""],
      seq ["'", many (oneOf [Token.singleQuotedText, Token.escape]), "'"]]),
  (templateString,
    seq ["\x60",
      many (oneOf [shownAs .other Token.templateText, Token.escape, templateSubstitution]),
      "\x60"]),
  (templateSubstitution, seq ["$\x7b", expressions, "\x7d"]),
  (regularExpression, seq ["/", Token.pattern, Token.patternEnd, maybe Token.flags]),
  (object,
    ranked .object (seq ["\x7b",
      commas (maybe (oneOf [pair, spreadElement, methodDefinition,
        shownAs .shorthand (oneOf [Token.name, contextualName])])), "\x7d"])),
  (pair, seq [role .key propertyKey, ":", role .value expression]),
  (propertyKey,
    anyWord (oneOf [shownAs .propertyName (oneOf [Token.name, contextualName]), Token.privateName,
      string, Token.number, computedPropertyName])),
  (computedPropertyName, seq ["[", expression, "]"]),
  (array, seq ["[", commas (maybe (oneOf [expression, spreadElement])), "]"])]

end TypedLayouts.TypeScript
