import ScriptTidy.Syntax.Build
import ScriptTidy.Syntax.Dialect

/-!
# Syntax trees

A parser, which the library takes as given, turns a text into a bare tree, from which the nodes of the syntax tree
are built.
-/

namespace ScriptTidy

/-- A parser: the bare tree of a text in a dialect. -/
abbrev Parser := Dialect → String → Option BareNode

/-- A syntax tree with the text it describes. -/
structure Tree where
  root : Node
  source : String
  dialect : Dialect

namespace Tree

/-- The syntax tree of a text, from what the parser made of it. -/
def ofBare (bare : BareNode) (source : String) (dialect : Dialect) : Except ParseFailure Tree :=
  return ⟨← bare.build, source, dialect⟩

/-- Parse a text in a given dialect. -/
def parseAs (parser : Parser) (dialect : Dialect) (source : String) : Except ParseFailure Tree :=
  match parser dialect source with
  | none => .error (.noTree dialect.name)
  | some bare => ofBare bare source dialect

/-- Parse the text of a file in the dialect that the file's name tells. -/
def parse (parser : Parser) (file source : String) : Except ParseFailure Tree :=
  parseAs parser (Dialect.ofFile file) source

/-- The text of a span of the source. -/
def slice (t : Tree) (span : Span) : String := ScriptTidy.slice t.source span

/-- The text of a node. -/
def text (t : Tree) (n : Node) : String := n.text t.source

/-- The statements at the top of the file. -/
def statements (t : Tree) : List Node := t.root.properChildren

/-- The number of faults that the parser worked around. -/
def faultCount (t : Tree) : Nat := t.root.faultCount

end Tree

end ScriptTidy
