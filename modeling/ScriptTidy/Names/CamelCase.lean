import ScriptTidy.Text.LetterCase

/-!
# Camel case

A name is in camel case when it is a small letter followed by letters and digits, all of ASCII. Other names are
brought closer to that form by folding separators into the letters behind them.
-/

namespace ScriptTidy

namespace CamelCase

/-- The name is a small letter followed by letters and digits. -/
def isCamel (name : String) : Bool :=
  match name.toList with
  | [] => false
  | c :: cs => c.isLower && cs.all Char.isAlphanum

/-- The characters that divide the words of a name. -/
def isSeparator (c : Char) : Bool := c = '-' || c = '_'

/-- Fold each separator into the character behind it, which is put in upper case. The character behind a separator
is used up by it, so of two separators in a row the second is kept. A line break is never folded into. -/
def fold : List Char → List Char
  | [] => []
  | [c] => [c]
  | c :: d :: cs =>
    if isSeparator c && d ≠ '\n' then LetterCase.upper d ++ fold cs else c :: fold (d :: cs)

/-- Put a capital at the front in lower case. -/
def lowerFirst : List Char → List Char
  | [] => []
  | c :: cs => if LetterCase.isUppercase c then LetterCase.lower c ++ cs else c :: cs

/-- The camel-case form of a name. -/
def ofName (name : String) : String := String.ofList (lowerFirst (fold name.toList))

/-- Words that cannot name a variable. -/
def reservedWords : List String :=
  ["break", "case", "catch", "class", "const", "continue", "debugger", "default", "delete", "do", "else", "enum",
   "export", "extends", "false", "finally", "for", "function", "if", "import", "in", "instanceof", "new", "null",
   "return", "super", "switch", "this", "throw", "true", "try", "typeof", "var", "void", "while", "with",
   "implements", "interface", "let", "package", "private", "protected", "public", "static", "yield", "await",
   "arguments", "eval"]

def isReserved (name : String) : Bool := reservedWords.contains name

end CamelCase

end ScriptTidy
