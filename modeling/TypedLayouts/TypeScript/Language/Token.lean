/-!
# Tokens

The pieces of text that source files are made of. Most tokens are one fixed text, a mark or a word
with a meaning of its own. The others are kinds of texts, such as names and numbers. A few have no
text at all: a line that ends may end a statement, and so may the end of the file.
-/

namespace TypedLayouts.TypeScript

/-- A kind of token. -/
inductive Token where
  /-- One fixed text. -/
  | text (text : String)
  /-- A name. -/
  | name
  /-- The name of a private member, with the mark in front of it. -/
  | privateName
  /-- A number. -/
  | number
  /-- Plain characters between double quotes. -/
  | doubleQuotedText
  /-- Plain characters between single quotes. -/
  | singleQuotedText
  /-- A backslash with what it stands in front of. -/
  | escape
  /-- The inside of a regular expression. -/
  | pattern
  /-- The slash that ends a regular expression. -/
  | patternEnd
  /-- The letters behind a regular expression. -/
  | flags
  /-- A comment. -/
  | comment
  /-- A first line that names the program to run a file with. -/
  | interpreter
  /-- The end of a line, or of what is around, where a semicolon could stand. -/
  | lineEnd
  /-- Plain characters of a template. -/
  | templateText
  /-- The question mark of a choice between two values. -/
  | choiceMark
  /-- A comment as markup has them. -/
  | markupComment
  /-- The end of a line behind a function without a body. -/
  | signatureEnd
  /-- The end of the file. -/
  | fileEnd
  deriving DecidableEq, Hashable, Repr, Inhabited

namespace Token

/-- A fixed text is written as itself. -/
instance : Coe String Token := ⟨.text⟩

/-- All tokens. When several tokens fit a text equally well, an earlier one is preferred to a later
one, and what is missing somewhere is looked for in this order. -/
def vocabulary : List Token := List.flatten [
  [.name, .interpreter, "export", "*", "default", "type", "import", "=", "as", "namespace", "\x7b",
   ",", "\x7d", "typeof", "from", "with", "var", "let", "const", "using", "await", "!", "else",
   "if", "switch", "for", "(", ";"],
  [")", "in", "of", "while", "do", "try", "break", "continue", "debugger", "return", "throw", ":",
   "case", "catch", "finally", "yield", "[", "]", ".", "class", "async", "function", "=>", "?.",
   "new", "+=", "-=", "*="],
  ["/=", "%=", "^=", "&=", "|=", ">>=", ">>>=", "<<=", "**=", "&&=", "||=", "??=", "...", "&&",
   "||", ">>", ">>>", "<<", "&", "^", "|", "+", "-", "/", "%", "**", "<", "<="],
  ["==", "===", "!=", "!==", ">=", ">", "??", "instanceof", "~", "void", "delete", "++", "--", "\"",
   "'", .doubleQuotedText, .singleQuotedText, .escape, .comment, "\x60", "$\x7b", .patternEnd,
   .pattern, .flags, .number, .privateName, "target", "meta"],
  ["this", "super", "true", "false", "null", "undefined", "@", "static", "readonly", "get", "set",
   "?", "declare", "public", "private", "protected", "override", "module", "any", "number",
   "boolean", "string", "symbol", "object", "abstract", "accessor", "satisfies", "require"],
  ["extends", "implements", "global", "interface", "enum", "-?:", "+?:", "?:", "asserts", "infer",
   "is", "keyof", "unique", "unknown", "never", "\x7b|", "|\x7d", .lineEnd, .templateText,
   .choiceMark, .markupComment, .signatureEnd, .fileEnd]]

/-- The words that are not given as names, wherever names stand. -/
def reserved : List String := [
  "break", "case", "catch", "class", "const", "continue", "debugger", "default", "delete", "do",
  "else", "export", "extends", "false", "finally", "for", "function", "if", "import", "in",
  "instanceof", "new", "null", "return", "super", "switch", "this", "throw", "true", "try",
  "typeof", "var", "void", "while", "with"]

/-- The token is a word: a text that could be a name as well. -/
def isWord : Token → Bool
  | text t => t.toList.all fun c => c.isAlpha || c = '_'
  | _ => false

/-- The token has no text of its own, so that where it stands is decided by what is around. -/
def isHidden : Token → Bool
  | lineEnd | templateText | choiceMark | signatureEnd | fileEnd => true
  | _ => false

/-- The token is a node with a name in a tree, and not only a mark. -/
def isNamed : Token → Bool
  | text t => t ∈ ["this", "super", "true", "false", "null", "undefined"]
  | patternEnd => false
  | t => !t.isHidden

/-- The token may stand anywhere between others. -/
def isComment (t : Token) : Bool :=
  t = comment || t = markupComment

end Token

end TypedLayouts.TypeScript
