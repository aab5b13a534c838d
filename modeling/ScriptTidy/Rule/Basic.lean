import ScriptTidy.Edit.EditSet
import ScriptTidy.Names.ScopeTree
import ScriptTidy.Names.Usage
import ScriptTidy.Pattern.Reader

/-!
# Rules

A rule looks at a file and proposes edits, with an account of what it would change and what it leaves alone.
-/

namespace ScriptTidy

/-- The four rules, in the order in which they run unless something else is asked for. -/
inductive Rule where
  | unusedImports
  | unusedVariables
  | casing
  | bindings
  deriving DecidableEq, Repr, Inhabited

/-- A name that names no rule. -/
structure UnknownRule where
  name : String
  deriving DecidableEq, Repr

namespace Rule

def all : List Rule := [unusedImports, unusedVariables, casing, bindings]

/-- The name by which a rule is asked for. -/
def id : Rule → String
  | unusedImports => "remove-unused-imports"
  | unusedVariables => "remove-unused-variables"
  | casing => "normalize-casing"
  | bindings => "modernize-bindings"

/-- The rule in one line. -/
def description : Rule → String
  | unusedImports => "Remove import bindings that are never referenced"
  | unusedVariables => "Remove variable declarations that are never referenced"
  | casing => "Rename variables and functions to camelCase"
  | bindings => "Replace 'var' declarations with 'let'"

/-- The name of the rule as a title. -/
def title : Rule → String
  | unusedImports => "UnusedImportRule"
  | unusedVariables => "UnusedVariableRule"
  | casing => "CasingRule"
  | bindings => "VarToLetRule"

/-- The rule of a given name. -/
def ofId (name : String) : Except UnknownRule Rule :=
  match all.find? (·.id = name) with
  | some rule => .ok rule
  | none => .error ⟨name⟩

/-- The place of a rule among all rules, counted from zero. -/
def position (r : Rule) : Nat := all.idxOf r

theorem ofId_id (r : Rule) : ofId r.id = .ok r := by cases r <;> rfl

end Rule

/-- The sentence about a name that names no rule. -/
def UnknownRule.message (u : UnknownRule) : String :=
  s!"unknown rule '{u.name}' (expected one of: " ++ ", ".intercalate (Rule.all.map Rule.id) ++ ")"

/-- What a user can ask of every rule. -/
structure Settings where
  /-- Names that are left alone. -/
  ignoredNames : List String
  /-- Names that match are left alone. -/
  ignorePattern : Option Pattern
  /-- Names that other files may use are left alone. -/
  keepExported : Bool

namespace Settings

/-- No names to leave alone but the exported ones. -/
def standard : Settings := ⟨[], none, true⟩

/-- The settings leave the name alone. -/
def ignores (s : Settings) (name : String) : Bool :=
  s.ignoredNames.contains name || s.ignorePattern.any (·.isMatch name)

end Settings

/-- What a rule knows about a file. -/
structure Facts where
  tree : Tree
  usage : Usage
  scopes : ScopeTree
  settings : Settings

/-- Everything there is to know about a tree. -/
def Facts.ofTree (tree : Tree) (settings : Settings) : Facts :=
  ⟨tree, .ofTree tree, .ofTree tree, settings⟩

/-- What a rule wants to change. -/
structure Proposal where
  edits : List Edit
  /-- How much the rule changes, in its own measure. -/
  count : Nat
  /-- The changes one by one. -/
  changes : List String
  /-- What the rule leaves alone, and why. -/
  skipped : List String
  deriving Repr

namespace Proposal

def none : Proposal := ⟨[], 0, [], []⟩

/-- The changes of two proposals, one after the other. -/
def append (p q : Proposal) : Proposal :=
  ⟨p.edits ++ q.edits, p.count + q.count, p.changes ++ q.changes, p.skipped ++ q.skipped⟩

instance : Append Proposal := ⟨append⟩

/-- The changes of several proposals, one after the other. -/
def concat (ps : List Proposal) : Proposal := ps.foldr append none

end Proposal

end ScriptTidy
