import ScriptTidy.Syntax.Tree

/-!
# Uses of names

Every identifier of a file, listed by its text alone: two bindings of one name are not told apart. What stands where
an import, a variable or a function gets its name introduces it, and every other identifier refers to it.
-/

namespace ScriptTidy

/-- The kinds of the leaves that hold a name. -/
def Kind.isIdentifier : Kind → Bool
  | identifier | typeIdentifier | shorthandPropertyIdentifier | shorthandPropertyIdentifierPattern => true
  | _ => false

/-- What an identifier does for its name. -/
inductive Role where
  | introduces
  | refers
  deriving DecidableEq, Repr

/-- An identifier in a file. -/
structure Occurrence where
  name : String
  span : Span
  role : Role
  deriving DecidableEq, Repr

namespace Role

/-- A child in the given field of a node of this kind introduces its name. -/
def introducedUnder (parent : Kind) (field : Option Field) : Bool :=
  match parent with
  | .importClause | .importSpecifier | .namespaceImport | .importRequireClause => true
  | .variableDeclarator | .functionDeclaration | .generatorFunctionDeclaration | .functionSignature =>
    field = some .name
  | _ => false

/-- The role of a node by its place under its parent. -/
def ofVisit (v : Node.Visit) : Role :=
  match v.parent with
  | some parent => if introducedUnder parent.kind v.node.field then introduces else refers
  | none => refers

end Role

/-- The identifiers of a file. -/
structure Usage where
  /-- All of them, in the order of a walk. -/
  occurrences : List Occurrence
  /-- For each name that is referred to, where in that list its references are. -/
  places : List (String × Array Nat)
  deriving Repr

namespace Usage

/-- The occurrence that a walk meets, if it meets an identifier. -/
def occurrence? (source : String) (v : Node.Visit) : Option Occurrence :=
  if v.node.kind.isIdentifier then some ⟨v.node.text source, v.node.span, Role.ofVisit v⟩ else none

/-- Put a place behind those that a table has under a name. -/
def addPlace (name : String) (place : Nat) : List (String × Array Nat) → List (String × Array Nat)
  | [] => [(name, #[place])]
  | (other, places) :: rest =>
    if other = name then (other, places.push place) :: rest else (other, places) :: addPlace name place rest

/-- Put the place of an occurrence under the name that it refers to. -/
def notePlace (table : List (String × Array Nat)) (entry : Occurrence × Nat) : List (String × Array Nat) :=
  if entry.1.role = .refers then addPlace entry.1.name entry.2 table else table

/-- The places of the references, by the names that they refer to. -/
def tabulate (occurrences : List Occurrence) : List (String × Array Nat) := occurrences.zipIdx.foldl notePlace []

/-- The identifiers in a list of occurrences. -/
def ofOccurrences (occurrences : List Occurrence) : Usage := ⟨occurrences, tabulate occurrences⟩

/-- The identifiers of a tree. -/
def ofTree (t : Tree) : Usage := ofOccurrences (t.root.walk.filterMap (occurrence? t.source))

/-- Where the references to a name are in the list of occurrences. -/
def placesOf (u : Usage) (name : String) : List Nat := ((u.places.lookup name).getD #[]).toList

/-- The identifiers that refer to a name. -/
def referencesTo (u : Usage) (name : String) : List Occurrence := (u.placesOf name).filterMap (u.occurrences[·]?)

def referenceCount (u : Usage) (name : String) : Nat := (u.placesOf name).length

/-- Some identifier refers to the name. -/
def isReferenced (u : Usage) (name : String) : Bool := 0 < u.referenceCount name

/-- The name stands somewhere in the file. -/
def contains (u : Usage) (name : String) : Bool := u.occurrences.any (·.name = name)

end Usage

end ScriptTidy
