import ScriptTidy.Rule.Basic

/-!
# Unused imports

An imported name that is never referred to is taken out of its import statement, and the statement goes when none of
its names is left. Uses count by name alone, so that the rule errs on the side of keeping an import.
-/

namespace ScriptTidy

namespace UnusedImports

/-- A name that an import statement brings in, with the part of the statement that does so. -/
structure ImportedName where
  part : Node
  name : String
  used : Bool

/-- The parts of an import clause. -/
structure Clause where
  default? : Option ImportedName
  /-- The name under which the whole module comes in. -/
  whole? : Option ImportedName
  /-- The list in braces. -/
  list? : Option Node
  specifiers : List ImportedName

namespace Clause

def empty : Clause := ⟨none, none, none, []⟩

/-- All the names of the clause. -/
def names (c : Clause) : List ImportedName := c.default?.toList ++ c.whole?.toList ++ c.specifiers

/-- The name is referred to somewhere, or the settings leave it alone. -/
def isUsed (f : Facts) (name : String) : Bool := f.usage.isReferenced name || f.settings.ignores name

/-- The name that `part` brings in under the identifier `localName`. -/
def imported (f : Facts) (part localName : Node) : ImportedName :=
  let name := localName.text f.tree.source
  ⟨part, name, isUsed f name⟩

/-- The clause with one more of its parts. -/
def add (f : Facts) (c : Clause) (part : Node) : Clause :=
  match part.kind with
  | .identifier => { c with default? := some (imported f part part) }
  | .namespaceImport =>
    match part.childOfKind? .identifier with
    | some name => { c with whole? := some (imported f part name) }
    | none => c
  | .namedImports =>
    { c with
      list? := some part
      specifiers := c.specifiers ++ part.properChildren.filterMap fun specifier =>
        (Reading.importedName? specifier).map (imported f specifier) }
  | _ => c

/-- The parts of a clause. -/
def ofNode (f : Facts) (clause : Node) : Clause := clause.properChildren.foldl (add f) empty

/-- What stands behind the default import. -/
def rest? (c : Clause) : Option Node := (c.whole?.map (·.part)).or c.list?

/-- An unused default import goes, up to what stands behind it. -/
def defaultEdits (c : Clause) : List Edit :=
  match c.default?, c.rest? with
  | some d, some rest => if d.used then [] else [.delete ⟨d.part.span.start, rest.span.start⟩]
  | _, _ => []

/-- An unused namespace goes, from the default import on. -/
def namespaceEdits (c : Clause) : List Edit :=
  match c.whole?, c.default? with
  | some ns, some d => if ns.used then [] else [.delete ⟨d.part.span.stop, ns.part.span.stop⟩]
  | _, _ => []

/-- A list without used names goes, from the default import on. Otherwise the used names are put in its place. -/
def specifierEdits (source : String) (c : Clause) : List Edit :=
  let kept := c.specifiers.filter (·.used)
  if kept.length = c.specifiers.length then []
  else if kept.isEmpty then
    match c.default?, c.list? with
    | some d, some list => [.delete ⟨d.part.span.stop, list.span.stop⟩]
    | _, _ => []
  else
    match c.specifiers.head?, c.specifiers.getLast? with
    | some first, some last =>
      [.replace ⟨first.part.span.start, last.part.span.stop⟩
        (", ".intercalate (kept.map (·.part.text source)))]
    | _, _ => []

end Clause

/-- What to change about an import statement. -/
def proposeFor (f : Facts) (statement : Node) : Proposal :=
  match statement.childOfKind? .importClause with
  | none => .none
  | some clauseNode =>
    let clause := Clause.ofNode f clauseNode
    let unused := clause.names.filter (!·.used)
    if unused.isEmpty then .none
    else
      { edits :=
          if unused.length = clause.names.length then [.delete statement.fullSpan]
          else clause.defaultEdits ++ clause.namespaceEdits ++ clause.specifierEdits f.tree.source
        count := unused.length
        changes := unused.map (·.name)
        skipped := [] }

/-- What to change about the import statements at the top of a file. -/
def propose (f : Facts) : Proposal :=
  .concat ((f.tree.statements.filter (·.kind = .importStatement)).map (proposeFor f))

/-- The proposal in one sentence. -/
def headline (p : Proposal) : String :=
  if p.changes.isEmpty then "No unused imports found!"
  else "Removed unused import(s): " ++ " | ".intercalate p.changes

end UnusedImports

end ScriptTidy
