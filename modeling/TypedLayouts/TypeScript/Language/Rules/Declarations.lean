import TypedLayouts.TypeScript.Language.Rule

/-!
# Declarations

Declarations of variables, functions, classes, namespaces and types.
-/

namespace TypedLayouts.TypeScript

open Rule Construct

/-- The rules of this module's constructs. -/
def Rules.ofDeclarations : List (Construct × Rule) := [
  (declaration,
    oneOf [oneOf [functionDeclaration, generatorFunctionDeclaration, classDeclaration,
        lexicalDeclaration, variableDeclaration, usingDeclaration], functionSignature,
      abstractClassDeclaration, moduleDeclaration, ranked .declare namespaceDeclaration,
      typeAliasDeclaration, enumDeclaration, interfaceDeclaration, importAlias,
      ambientDeclaration]),
  (variableDeclaration, seq ["var", commas1 variableDeclarator, statementEnd]),
  (lexicalDeclaration, seq [oneOf ["let", "const"], commas1 variableDeclarator, statementEnd]),
  (usingDeclaration,
    seq [oneOf ["using", seq ["await", "using"]], commas1 variableDeclarator, statementEnd]),
  (variableDeclarator,
    oneOf [seq [role .name (oneOf [Token.name, destructuringPattern]), maybe annotatedType,
        maybe initialValue], ranked .declare (seq [role .name Token.name, "!", annotatedType])]),
  (initialValue, seq ["=", role .value expression]),
  (functionDeclaration,
    ranked .declaration (rightward (seq [maybe "async", "function", Token.name, signature,
      statementBlock, maybe Token.lineEnd]))),
  (generatorFunctionDeclaration,
    ranked .declaration (rightward (seq [maybe "async", "function", "*", Token.name, signature,
      statementBlock, maybe Token.lineEnd]))),
  (functionSignature,
    seq [maybe "async", "function", Token.name, signature,
      oneOf [statementEnd, Token.signatureEnd]]),
  (classDeclaration,
    ranked .declaration (leftward (seq [many decorator, "class", typeName, maybe typeParameters,
      maybe classHeritage, classBody, maybe Token.lineEnd]))),
  (abstractClassDeclaration,
    ranked .declaration (seq [many decorator, "abstract", "class", typeName, maybe typeParameters,
      maybe classHeritage, classBody])),
  (moduleDeclaration, seq ["module", moduleContents]),
  (namespaceDeclaration, seq ["namespace", moduleContents]),
  (moduleContents,
    rightward (seq [oneOf [string, Token.name, nestedIdentifier], maybe statementBlock])),
  (nestedIdentifier,
    ranked .member (seq [oneOf [Token.name, nestedIdentifier], ".",
      shownAs .propertyName Token.name])),
  (interfaceDeclaration,
    seq ["interface", typeName, maybe typeParameters, maybe extendsTypeClause, objectType]),
  (extendsTypeClause,
    seq ["extends", commas1 (oneOf [typeName, nestedTypeIdentifier, genericType])]),
  (enumDeclaration, seq [maybe "const", "enum", Token.name, enumBody]),
  (enumBody,
    seq ["\x7b", maybe (seq [commas1 (oneOf [propertyKey, enumAssignment]), maybe ","]), "\x7d"]),
  (enumAssignment, seq [propertyKey, initialValue]),
  (typeAliasDeclaration, seq ["type", typeName, maybe typeParameters, "=", type, statementEnd]),
  (ambientDeclaration,
    seq ["declare",
      oneOf [declaration, seq ["global", statementBlock],
        seq ["module", ".", shownAs .propertyName Token.name, ":", type, statementEnd]]])]

end TypedLayouts.TypeScript
