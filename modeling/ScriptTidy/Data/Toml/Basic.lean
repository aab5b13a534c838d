/-!
# TOML documents

A document of TOML is a table, filled step by step: a header opens a table, and a key with dots opens the tables on
its way. `Table.descend` follows such a way, and `Table.open?`, `Table.extend?` and `Table.insert?` are the three
things that can be done at its end. They refuse to define a thing twice.
-/

namespace ScriptTidy

namespace Toml

/-- How a table came to be. -/
inductive Origin where
  /-- By a header of its own. The whole document counts as such. -/
  | header
  /-- On the way to a header. A header may still follow. -/
  | implied
  /-- On the way of a key with dots. More such keys may follow. -/
  | dotted
  /-- Between braces. Nothing may follow. -/
  | closed
  deriving DecidableEq, Repr

end Toml

/-- A value of TOML. -/
inductive Toml where
  | text (value : String)
  | bool (value : Bool)
  /-- A number or a date. -/
  | other
  | array (items : List Toml)
  /-- The tables of headers with doubled brackets, the last one first. -/
  | tables (items : List Toml)
  | table (origin : Toml.Origin) (fields : List (String × Toml))
  deriving Repr, Inhabited

namespace Toml

/-- A table. -/
structure Table where
  origin : Origin
  fields : List (String × Toml)
  deriving Repr

namespace Table

def toToml (t : Table) : Toml := .table t.origin t.fields

def lookup (t : Table) (key : String) : Option Toml := t.fields.lookup key

/-- The table with a value at a key. -/
def set (t : Table) (key : String) (value : Toml) : Table :=
  ⟨t.origin, (t.fields.filter (·.1 ≠ key)) ++ [(key, value)]⟩

/-- Follow a way of keys and act on the table at its end. Tables that are missing are made, and of several tables the
last one is meant. A way of a key with dots (`dotted`) does not enter a table that has a header. -/
def descend (dotted : Bool) (act : Table → Option Table) : List String → Table → Option Table
  | [], t => act t
  | key :: keys, t =>
    match t.lookup key with
    | none => (descend dotted act keys ⟨if dotted then .dotted else .implied, []⟩).map fun u => t.set key u.toToml
    | some (.table origin fields) =>
      if origin = .closed ∨ (dotted ∧ origin = .header) then none
      else (descend dotted act keys ⟨origin, fields⟩).map fun u => t.set key u.toToml
    | some (.tables (.table origin fields :: items)) =>
      (descend dotted act keys ⟨origin, fields⟩).map fun u => t.set key (.tables (u.toToml :: items))
    | some _ => none

/-- Open the table of a header. -/
def open? (key : String) (t : Table) : Option Table :=
  match t.lookup key with
  | none => some (t.set key (.table .header []))
  | some (.table .implied fields) => some (t.set key (.table .header fields))
  | some _ => none

/-- Open one more table of a header with doubled brackets. -/
def extend? (key : String) (t : Table) : Option Table :=
  match t.lookup key with
  | none => some (t.set key (.tables [.table .header []]))
  | some (.tables items) => some (t.set key (.tables (.table .header [] :: items)))
  | some _ => none

/-- Give a value to the last key of a way. A way with dots has to end in a table that such a way has made. -/
def insert? (dotted : Bool) (key : String) (value : Toml) (t : Table) : Option Table :=
  if decide (t.origin = .dotted) = dotted ∧ (t.lookup key).isNone then some (t.set key value) else none

/-- Give a value to a key with dots, the parts of which are `keys` and `key`. -/
def assign (keys : List String) (key : String) (value : Toml) (t : Table) : Option Table :=
  t.descend true (insert? (!keys.isEmpty) key value) keys

end Table

/-- A document that is being read. -/
structure Draft where
  root : Table
  /-- The way to the table of the last header. -/
  current : List String

namespace Draft

/-- A document without contents. -/
def empty : Draft := ⟨⟨.header, []⟩, []⟩

/-- Read a header. -/
def header (d : Draft) (keys : List String) (key : String) (doubled : Bool) : Option Draft :=
  (d.root.descend false (if doubled then Table.extend? key else Table.open? key) keys).map (⟨·, keys ++ [key]⟩)

/-- Read a key with its value. -/
def assign (d : Draft) (keys : List String) (key : String) (value : Toml) : Option Draft :=
  (d.root.descend false (Table.assign keys key value) d.current).map (⟨·, d.current⟩)

end Draft

end Toml

end ScriptTidy
