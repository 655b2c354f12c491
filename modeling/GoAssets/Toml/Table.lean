import GoAssets.Toml.Value

/-!
# Tables under construction

A document defines its tables piece by piece, and how a table came about decides what may still be
added to it. A header may define a table once, unless the table only lies on the way to one that an
earlier header named. A dotted key may extend the tables that dotted keys made, and pass through
others that no header has defined. A value, and so also a table in braces, is complete.
-/

namespace GoAssets.Toml

/-- How a table came about. -/
inductive Origin where
  /-- It has a header or braces of its own. -/
  | defined
  /-- It lies on the way to a table with a header. -/
  | passed
  /-- It lies on the way of a dotted key. -/
  | dotted
deriving DecidableEq, Repr

/-- What a key holds: a value, a table, or a list of tables with a header each. -/
inductive Node where
  | value (v : Value)
  | table (origin : Origin) (entries : List (String × Node))
  | tables (elements : List (List (String × Node)))

/-- The keys of a table and what they hold. -/
abbrev Entries := List (String × Node)

namespace Entries

/-- Make a key hold something, in the place that it has or at the end. -/
def set (key : String) (node : Node) : Entries → Entries
  | [] => [(key, node)]
  | (k, n) :: rest => if k = key then (key, node) :: rest else (k, n) :: set key node rest

/-- Change the table that a list of keys leads to. Missing tables are made on the way, and of a
list of tables the last one is meant. A dotted key does not lead into a table that is defined. -/
def descend (isDotted : Bool) (change : Origin → Entries → Option Entries) :
    List String → Origin → Entries → Option Entries
  | [], origin, entries => change origin entries
  | key :: path, _, entries =>
    match entries.lookup key with
    | none =>
      let origin := if isDotted then Origin.dotted else Origin.passed
      (descend isDotted change path origin []).map fun es => entries.set key (.table origin es)
    | some (.value _) => none
    | some (.table origin es) =>
      if isDotted && origin == .defined then none
      else (descend isDotted change path origin es).map fun es => entries.set key (.table origin es)
    | some (.tables elements) =>
      match elements.getLast? with
      | none => none
      | some es =>
        (descend isDotted change path .defined es).map fun es =>
          entries.set key (.tables (elements.dropLast ++ [es]))

/-- Give a key without a value its value. -/
def addValue (key : String) (v : Value) (entries : Entries) : Option Entries :=
  match entries.lookup key with
  | none => some (entries.set key (.value v))
  | some _ => none

/-- Give a dotted key its value. The table that it ends in has to be one of dotted keys if the key
has several parts. -/
def addDotted (path : List String) (key : String) (v : Value) (origin : Origin)
    (entries : Entries) : Option Entries :=
  descend true
    (fun origin es => if (origin == .dotted) == path.isEmpty then none else es.addValue key v)
    path origin entries

/-- Define the table of a header. -/
def defineTable (path : List String) (key : String) (root : Entries) : Option Entries :=
  descend false
    (fun _ es =>
      match es.lookup key with
      | none => some (es.set key (.table .defined []))
      | some (.table .passed children) => some (es.set key (.table .defined children))
      | some _ => none)
    path .defined root

/-- Add an empty table to the list of tables of a header. -/
def appendTable (path : List String) (key : String) (root : Entries) : Option Entries :=
  descend false
    (fun _ es =>
      match es.lookup key with
      | none => some (es.set key (.tables [[]]))
      | some (.tables elements) => some (es.set key (.tables (elements ++ [[]])))
      | some _ => none)
    path .defined root

end Entries

/-! ## Complete tables -/

mutual

def Node.toValue : Node → Value
  | .value v => v
  | .table _ entries => .table (entryValues entries)
  | .tables elements => .array (tableValues elements)

def entryValues : List (String × Node) → List (String × Value)
  | [] => []
  | (key, node) :: rest => (key, node.toValue) :: entryValues rest

def tableValues : List (List (String × Node)) → List Value
  | [] => []
  | entries :: rest => .table (entryValues entries) :: tableValues rest

end

end GoAssets.Toml
