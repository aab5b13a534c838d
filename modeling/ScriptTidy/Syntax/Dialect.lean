import ScriptTidy.Files.Path
import ScriptTidy.Text.LetterCase

/-!
# Dialects

The grammar of a source file is chosen by the extension of its name.
-/

namespace ScriptTidy

/-- The grammars that sources are written in. -/
inductive Dialect where
  /-- JavaScript, with or without embedded markup. -/
  | javascript
  /-- TypeScript without embedded markup. -/
  | typescript
  /-- TypeScript with embedded markup. -/
  | tsx
  deriving DecidableEq, Repr, Inhabited

namespace Dialect

def name : Dialect → String
  | javascript => "javascript"
  | typescript => "typescript"
  | tsx => "tsx"

/-- The dialect of an extension, in letters of either case. -/
def ofExtension? (extension : String) : Option Dialect :=
  match LetterCase.lowercase extension with
  | "js" | "mjs" | "cjs" | "jsx" => some javascript
  | "ts" | "mts" | "cts" => some typescript
  | "tsx" => some tsx
  | _ => none

/-- The dialect of a file by its name. A name that does not tell is taken for JavaScript, the most lenient grammar. -/
def ofFile (file : String) : Dialect := ((Path.extension? file).bind ofExtension?).getD javascript

/-- The path names a source file. Files that hold declarations of types only do not count. -/
def isSourcePath (path : String) : Bool :=
  ((Path.extension? path).bind ofExtension?).isSome && !path.endsWith ".d.ts"

end Dialect

end ScriptTidy
