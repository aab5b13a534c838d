import ScriptTidy.Syntax.Tree
import Std.Data.HashMap.Basic

/-!
# Tables of parsed texts

Trees that were parsed elsewhere come in a table. Its keys name the dialect and a hash of the text; its entries list
the nodes of a tree, parents before children, each with its depth.
-/

namespace ScriptTidy

/-- A node of a listed tree, with its distance from the root. -/
structure ListedNode where
  depth : Nat
  label : BareLabel
  deriving Repr

/-- The nodes that are written as six numbers each: the depth, the kind and the field as places in a list of names, a
sum of flags, and the ends of the span. The flags are 1 for a named node, 2 for an erroneous one and 4 for a missing
one. A field below zero is none. -/
def ListedNode.ofNumbers? (names : Array String) : List Int → Option (List ListedNode)
  | [] => some []
  | depth :: kind :: field :: flags :: start :: stop :: rest =>
    let name (i : Int) : String := names.getD i.toNat ""
    let flag (bit : Nat) : Bool := flags.toNat.testBit bit
    let label : BareLabel := {
      kind := Kind.ofName (name kind)
      field := if field < 0 then none else some (Field.ofText (name field))
      named := flag 0
      erroneous := flag 1
      missing := flag 2
      span := ⟨start.toNat, stop.toNat⟩ }
    (ofNumbers? names rest).map (⟨depth.toNat, label⟩ :: ·)
  | _ => none

/-- The trees of a list of nodes, each with the depth of its root. A node owns the trees right behind it that stand
deeper. -/
def ListedNode.forest (nodes : List ListedNode) : List (Nat × BareNode) :=
  nodes.foldr (fun n later =>
    let owned := later.takeWhile fun t => n.depth < t.1
    (n.depth, .mk n.label (owned.map (·.2))) :: later.drop owned.length) []

/-- The tree whose nodes are listed. -/
def BareNode.ofListed? (nodes : List ListedNode) : Option BareNode :=
  (ListedNode.forest nodes).head?.map (·.2)

/-- The 64-bit hash of a text by which tables find its tree: every byte is mixed in by exclusive or, and the result
is multiplied by a fixed prime. -/
def textHash (text : String) : UInt64 :=
  text.toUTF8.foldl (fun hash byte => (hash ^^^ byte.toUInt64) * 0x100000001b3) 0xcbf29ce484222325

/-- A number in hexadecimal digits, filled up with zeros to the given length. -/
def hexDigits (length n : Nat) : String :=
  let digits := Nat.toDigits 16 n
  String.ofList (List.replicate (length - digits.length) '0' ++ digits)

/-- The key under which a table holds the tree of a text. -/
def treeKey (dialect : Dialect) (text : String) : String :=
  s!"{dialect.name}:" ++ hexDigits 16 (textHash text).toNat

/-- Parsed trees by their keys. -/
abbrev TreeTable := Std.HashMap String BareNode

/-- Add the tree that is written as numbers, if it is. -/
def TreeTable.addNumbers (table : TreeTable) (names : Array String) (key : String) (numbers : List Int) : TreeTable :=
  match (ListedNode.ofNumbers? names numbers).bind BareNode.ofListed? with
  | some tree => table.insert key tree
  | none => table

/-- The parser that looks its trees up. -/
def TreeTable.parser (table : TreeTable) : Parser := fun dialect text => table[treeKey dialect text]?

end ScriptTidy
