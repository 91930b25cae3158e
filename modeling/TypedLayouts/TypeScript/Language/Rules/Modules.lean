import TypedLayouts.TypeScript.Language.Rule

/-!
# Imports and exports

What a file takes from other files and gives to them.
-/

namespace TypedLayouts.TypeScript

open Rule Construct

/-- The rules of this module's constructs. -/
def Rules.ofModules : List (Construct × Rule) := [
  (exportStatement,
    oneOf [oneOf [seq ["export",
          oneOf [seq ["*", fromClause], seq [namespaceExport, fromClause],
            seq [exportClause, fromClause], exportClause], statementEnd],
        seq [many decorator, "export",
          oneOf [role .declaration declaration,
            seq ["default",
              oneOf [role .declaration declaration, seq [expression, statementEnd]]]]]],
      seq ["export", "type", exportClause, maybe fromClause, statementEnd],
      seq ["export", "import", importAlias], seq ["export", "=", expression, statementEnd],
      seq ["export", "as", "namespace", Token.name, statementEnd]]),
  (namespaceExport, seq ["*", "as", exportedName]),
  (exportClause, seq ["\x7b", commas exportSpecifier, maybe ",", "\x7d"]),
  (exportSpecifier,
    seq [maybe (oneOf ["type", "typeof"]), seq [exportedName, maybe (seq ["as", exportedName])]]),
  (exportedName, oneOf [Token.name, string, "default"]),
  (importStatement,
    seq ["import", maybe (oneOf ["type", "typeof"]),
      oneOf [seq [importClause, fromClause], importRequireClause, string], maybe importAttributes,
      statementEnd]),
  (importClause,
    oneOf [namespaceImport, namedImports,
      seq [importedName, maybe (seq [",", oneOf [namespaceImport, namedImports]])]]),
  (fromClause, seq ["from", string]),
  (namespaceImport, seq ["*", "as", Token.name]),
  (namedImports, seq ["\x7b", commas importSpecifier, maybe ",", "\x7d"]),
  (importSpecifier,
    seq [maybe (oneOf ["type", "typeof"]),
      oneOf [importedName,
        seq [oneOf [exportedName, shownAs .identifier "type"], "as", importedName]]]),
  (importAttributes, seq ["with", object]),
  (importedName, oneOf [Token.name, shownAs .identifier "type"]),
  (importRequireClause, seq [Token.name, "=", "require", "(", string, ")"]),
  (importAlias,
    seq ["import", Token.name, "=", oneOf [Token.name, nestedIdentifier], statementEnd])]

end TypedLayouts.TypeScript
