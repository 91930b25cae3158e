/-!
# String literals

The double-quoted literal that stands for a text in generated code. Five characters are written
with a backslash: the backslash itself, the double quote, newline, carriage return and tab. All
others stand for themselves, so no literal spans two lines and an unescaped quote ends it.
-/

namespace TypedLayouts.TypeScript

/-- How one character is written between double quotes. -/
def escapeChar : Char → List Char
  | '\\' => ['\\', '\\']
  | '"' => ['\\', '"']
  | '\n' => ['\\', 'n']
  | '\r' => ['\\', 'r']
  | '\t' => ['\\', 't']
  | c => [c]

/-- The text between the quotes of the literal for `s`. -/
def escape (s : String) : String :=
  String.ofList (s.toList.flatMap escapeChar)

/-- The string literal for `s`. -/
def quote (s : String) : String :=
  "\"" ++ escape s ++ "\""

end TypedLayouts.TypeScript
