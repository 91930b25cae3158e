import TypedLayouts.TypeScript.Language.Rule

/-!
# Statements

Files, statements and what they are made of.
-/

namespace TypedLayouts.TypeScript

open Rule Construct

/-- The rules of this module's constructs. -/
def Rules.ofStatements : List (Construct × Rule) := [
  (file, seq [maybe Token.interpreter, many statement]),
  (statement,
    oneOf [exportStatement, importStatement, debuggerStatement, expressionStatement, declaration,
      statementBlock, ifStatement, switchStatement, forStatement, forInStatement, whileStatement,
      doStatement, tryStatement, withStatement, breakStatement, continueStatement, returnStatement,
      throwStatement, emptyStatement, labeledStatement]),
  (expressionStatement, seq [expressions, statementEnd]),
  (statementBlock, rightward (seq ["\x7b", many statement, "\x7d", maybe Token.lineEnd])),
  (elseClause, seq ["else", statement]),
  (ifStatement, rightward (seq ["if", parenthesizedExpression, statement, maybe elseClause])),
  (switchStatement, seq ["switch", parenthesizedExpression, switchBody]),
  (switchBody, seq ["\x7b", many (oneOf [switchCase, switchDefault]), "\x7d"]),
  (switchCase, seq ["case", expressions, ":", many statement]),
  (switchDefault, seq ["default", ":", many statement]),
  (forStatement,
    seq ["for", "(",
      oneOf [oneOf [lexicalDeclaration, variableDeclaration], seq [expressions, ";"],
        emptyStatement], oneOf [seq [expressions, ";"], emptyStatement], maybe expressions, ")",
      statement]),
  (forInStatement, seq ["for", maybe "await", forHeader, statement]),
  (forHeader,
    seq ["(",
      oneOf [oneOf [target, parenthesizedExpression],
        seq ["var", oneOf [Token.name, destructuringPattern], maybe initialValue],
        seq [oneOf ["let", "const"], oneOf [Token.name, destructuringPattern], maybe Token.lineEnd],
        seq [oneOf ["using", seq ["await", "using"]], oneOf [Token.name, destructuringPattern],
          maybe Token.lineEnd]], oneOf ["in", "of"], expressions, ")"]),
  (whileStatement, seq ["while", parenthesizedExpression, statement]),
  (doStatement,
    rightward (seq ["do", statement, "while", parenthesizedExpression, maybe statementEnd])),
  (tryStatement, seq ["try", statementBlock, maybe catchClause, maybe finallyClause]),
  (catchClause,
    seq ["catch",
      maybe (seq ["(", oneOf [Token.name, destructuringPattern], maybe annotatedType, ")"]),
      statementBlock]),
  (finallyClause, seq ["finally", statementBlock]),
  (withStatement, seq ["with", parenthesizedExpression, statement]),
  (breakStatement, seq ["break", maybe (shownAs .other Token.name), statementEnd]),
  (continueStatement, seq ["continue", maybe (shownAs .other Token.name), statementEnd]),
  (debuggerStatement, seq ["debugger", statementEnd]),
  (returnStatement, seq ["return", maybe expressions, statementEnd]),
  (throwStatement, seq ["throw", expressions, statementEnd]),
  (emptyStatement, ";"),
  (labeledStatement,
    favoured (-1) (seq [shownAs .other (oneOf [Token.name, contextualName]), ":", statement])),
  (statementEnd, oneOf [Token.lineEnd, ";"])]

end TypedLayouts.TypeScript
