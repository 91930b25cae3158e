import TypedLayouts.TypeScript.Language.Rule

/-!
# Parts of types

Annotations, arguments, parameters and the members of object types.
-/

namespace TypedLayouts.TypeScript

open Rule Construct

/-- The rules of this module's constructs. -/
def Rules.ofTypeParts : List (Construct × Rule) := [
  (annotatedType,
    seq [":", oneOf [type, shownAs .other importTypeMember, shownAs .other importTypeCall]]),
  (omittedType, seq ["-?:", type]),
  (addedType, seq ["+?:", type]),
  (optedType, seq ["?:", type]),
  (assertion, seq ["asserts", oneOf [typePredicate, Token.name, "this"]]),
  (annotatedAssertion, seq [":", assertion]),
  (typePredicate, seq [oneOf [Token.name, "this", shownAs .identifier predefinedType], "is", type]),
  (annotatedPredicate, seq [":", typePredicate]),
  (typeArguments, seq ["<", commas1 type, maybe ",", ">"]),
  (typeParameters, seq ["<", commas1 typeParameter, maybe ",", ">"]),
  (typeParameter, seq [maybe "const", typeName, maybe constraint, maybe defaultType]),
  (defaultType, seq ["=", type]),
  (constraint, seq [oneOf ["extends", ":"], type]),
  (objectType,
    seq [oneOf ["\x7b", "\x7b|"],
      maybe (seq [maybe (oneOf [",", ";"]),
        separated (oneOf [",", statementEnd]) (oneOf [exportStatement, propertySignature,
          callSignature, constructSignature, indexSignature, methodSignature]),
        maybe (oneOf [",", statementEnd])]), oneOf ["\x7d", "|\x7d"]]),
  (callSignature, signature),
  (propertySignature,
    seq [maybe accessibilityModifier, maybe "static", maybe overrideModifier, maybe "readonly",
      propertyKey, maybe "?", maybe annotatedType]),
  (constructSignature,
    seq [maybe "abstract", "new", maybe typeParameters, formalParameters, maybe annotatedType]),
  (indexSignature,
    seq [maybe (seq [maybe (oneOf ["-", "+"]), "readonly"]), "[",
      oneOf [seq [oneOf [Token.name, shownAs .identifier contextualName], ":", type],
        mappedTypeClause], "]", oneOf [annotatedType, omittedType, addedType, optedType]]),
  (mappedTypeClause, seq [typeName, "in", type, maybe (seq ["as", type])]),
  (tupleParameter, seq [oneOf [Token.name, restPattern], annotatedType]),
  (optionalTupleParameter, seq [Token.name, "?", annotatedType]),
  (tupleMember, oneOf [tupleParameter, optionalTupleParameter, optionalType, restType, type]),
  (optionalType, seq [type, "?"]),
  (restType, seq ["...", type])]

end TypedLayouts.TypeScript
