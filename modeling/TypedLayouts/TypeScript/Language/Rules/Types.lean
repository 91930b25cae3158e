import TypedLayouts.TypeScript.Language.Rule

/-!
# Types

What a type can be.
-/

namespace TypedLayouts.TypeScript

open Rule Construct

/-- The rules of this module's constructs. -/
def Rules.ofTypes : List (Construct × Rule) := [
  (nestedTypeIdentifier,
    ranked .member (seq [oneOf [Token.name, nestedIdentifier], ".", typeName])),
  (importTypeMember,
    seq [oneOf [importCallee, shownAs .other importTypeMember, shownAs .other importTypeCall], ".",
      oneOf [Token.privateName, shownAs .propertyName Token.name]]),
  (importTypeCall, seq [oneOf [importCallee, shownAs .other importTypeMember], arguments]),
  (type,
    oneOf [primaryType, functionType, readonlyType, constructorType, inferType,
      ranked (.level (-1)) (shownAs .other importTypeMember),
      ranked (.level (-1)) (shownAs .other importTypeCall)]),
  (constructorType,
    leftward (seq [maybe "abstract", "new", maybe typeParameters, formalParameters, "=>", type])),
  (primaryType,
    oneOf [parenthesizedType, predefinedType, typeName, nestedTypeIdentifier, genericType,
      objectType, arrayType, tupleType, maybeType, typeQuery, indexTypeQuery, "this", anyType,
      literalType, lookupType, conditionalType, templateLiteralType, intersectionType, unionType,
      "const"]),
  (templateType, seq ["$\x7b", oneOf [primaryType, inferType], "\x7d"]),
  (templateLiteralType,
    seq ["\x60", many (oneOf [shownAs .other Token.templateText, templateType]), "\x60"]),
  (inferType, rightward (seq ["infer", typeName, maybe (seq ["extends", type])])),
  (conditionalType, rightward (seq [type, "extends", type, "?", type, ":", type])),
  (genericType, ranked .call (seq [oneOf [typeName, nestedTypeIdentifier], typeArguments])),
  (queriedMember,
    seq [oneOf [Token.name, "this", shownAs .other queriedElement, shownAs .other queriedMember,
        shownAs .other queriedCall], oneOf [".", "?."],
      oneOf [Token.privateName, shownAs .propertyName Token.name]]),
  (queriedElement,
    seq [oneOf [Token.name, "this", shownAs .other queriedElement, shownAs .other queriedMember,
        shownAs .other queriedCall], maybe "?.", "[", oneOf [predefinedType, string, Token.number],
      "]"]),
  (queriedCall,
    seq [
      oneOf [importCallee, Token.name, shownAs .other queriedMember, shownAs .other queriedElement],
      arguments]),
  (queriedInstance,
    seq [
      oneOf [importCallee, Token.name, shownAs .other queriedMember, shownAs .other queriedElement],
      typeArguments]),
  (typeQuery,
    rightward (seq ["typeof",
      oneOf [shownAs .other queriedElement, shownAs .other queriedMember,
        shownAs .other queriedCall, shownAs .other queriedInstance, Token.name, "this"]])),
  (indexTypeQuery, seq ["keyof", primaryType]),
  (lookupType, seq [primaryType, "[", type, "]"]),
  (literalType,
    oneOf [shownAs .other signedNumber, Token.number, string, "true", "false", "null",
      "undefined"]),
  (signedNumber, ranked (.level 1) (leftward (seq [oneOf ["-", "+"], Token.number]))),
  (anyType, "*"),
  (maybeType, rightward (seq ["?", primaryType])),
  (parenthesizedType, seq ["(", type, ")"]),
  (predefinedType,
    oneOf ["any", "number", "boolean", "string", "symbol", seq ["unique", "symbol"], "void",
      "unknown", "never", "object"]),
  (arrayType, seq [primaryType, "[", "]"]),
  (tupleType, seq ["[", commas tupleMember, maybe ",", "]"]),
  (readonlyType, seq ["readonly", type]),
  (unionType, leftward (seq [maybe type, "|", type])),
  (intersectionType, leftward (seq [maybe type, "&", type])),
  (functionType,
    leftward (seq [maybe typeParameters, formalParameters, "=>",
      oneOf [type, assertion, typePredicate]])),
  (typeName, shownAs .other Token.name)]

end TypedLayouts.TypeScript
