import GoAssets.Toml.Number
import GoAssets.Toml.Quoted
import GoAssets.Toml.Table

/-!
# Reading TOML

A document is read line by line: a header opens a table, and the lines after it give keys of that
table their values. Arrays may span lines and hold comments; tables in braces may not.
-/

namespace GoAssets.Toml

/-! ## Blanks and line ends -/

def skipBlank (cs : List Char) : List Char := cs.dropWhile isBlank

/-- The text after blanks, line ends and comments; `inComment` holds within a comment. -/
def skipLines (inComment : Bool) : List Char → List Char
  | [] => []
  | '\r' :: '\n' :: rest => skipLines false rest
  | c :: rest =>
    if c = '\n' then skipLines false rest
    else if inComment then
      if isTextChar c then skipLines true rest else c :: rest
    else if c = '#' then skipLines true rest
    else if isBlank c then skipLines false rest
    else c :: rest

/-- The text after the rest of a line, which may hold a comment and nothing else. -/
def lineRest? (cs : List Char) : Option (List Char) :=
  let cs := match skipBlank cs with
    | '#' :: rest => rest.dropWhile isTextChar
    | rest => rest
  if cs = [] then some [] else lineEnd? cs

/-! ## Keys -/

/-- How deep keys and values may be nested. -/
def depthLimit : Nat := 79

def isBareChar (c : Char) : Bool := c.isAlphanum || c == '-' || c == '_'

def keyPart : Parser String
  | '"' :: rest => (basicBody rest).map fun (text, rest) => (String.ofList text, rest)
  | '\'' :: rest => (literalBody rest).map fun (text, rest) => (String.ofList text, rest)
  | cs =>
    let name := cs.takeWhile isBareChar
    if name = [] then none else some (String.ofList name, cs.dropWhile isBareChar)

/-- The parts of a key with points between them, and blanks around each. -/
def keyParts : Nat → Parser (List String)
  | 0, _ => none
  | limit + 1, cs => do
    let (part, cs) ← keyPart (skipBlank cs)
    match skipBlank cs with
    | '.' :: rest =>
      let (parts, cs) ← keyParts limit rest
      return (part :: parts, cs)
    | cs => return ([part], cs)

/-- A key: the way to a table, and a name in it. -/
def key : Parser (List String × String) := fun cs => do
  let (parts, cs) ← keyParts depthLimit cs
  let name ← parts.getLast?
  return ((parts.dropLast, name), cs)

/-! ## Values -/

/-- A value without parts. -/
def scalar : Parser Value
  | [] => none
  | c :: rest =>
    if c = '"' ∨ c = '\'' then (string (c :: rest)).map fun (text, rest) => (.string text, rest)
    else
      match c :: rest with
      | 't' :: 'r' :: 'u' :: 'e' :: rest => some (.boolean true, rest)
      | 'f' :: 'a' :: 'l' :: 's' :: 'e' :: rest => some (.boolean false, rest)
      | cs => number cs

def keyValue (item : Parser Value) : Parser ((List String × String) × Value) := fun cs => do
  let (k, cs) ← key cs
  match cs with
  | '=' :: rest =>
    let (v, cs) ← item (skipBlank rest)
    return ((k, v), cs)
  | _ => none

def arrayItems (item : Parser Value) : Nat → Parser (List Value)
  | 0, _ => none
  | limit + 1, cs =>
    match skipLines false cs with
    | ']' :: rest => some ([], rest)
    | cs => do
      let (v, cs) ← item cs
      match skipLines false cs with
      | ',' :: rest =>
        let (vs, cs) ← arrayItems item limit rest
        return (v :: vs, cs)
      | ']' :: rest => return ([v], rest)
      | _ => none

/-- The entries of a table in braces and its closing brace. -/
def braceItems (item : Parser Value) : Nat → Parser (List ((List String × String) × Value))
  | 0, _ => none
  | limit + 1, cs => do
    let (kv, cs) ← keyValue item cs
    match skipBlank cs with
    | ',' :: rest =>
      let (kvs, cs) ← braceItems item limit rest
      return (kv :: kvs, cs)
    | '\x7d' :: rest => return ([kv], rest)
    | _ => none

/-- The table of a list of keys and values. -/
def tableOf (kvs : List ((List String × String) × Value)) : Option Value :=
  (kvs.foldlM (fun entries ((path, k), v) => Entries.addDotted path k v .defined entries) []).map
    fun entries => .table (entryValues entries)

/-- A value whose arrays and tables are nested at most to the given depth. -/
def value (limit : Nat) : Nat → Parser Value
  | 0 => scalar
  | depth + 1 => fun cs =>
    match cs with
    | '[' :: rest =>
      (arrayItems (value limit depth) limit rest).map fun (vs, rest) => (.array vs, rest)
    | '\x7b' :: rest =>
      match skipBlank rest with
      | '\x7d' :: rest => some (.table [], rest)
      | rest => do
        let (kvs, rest) ← braceItems (value limit depth) limit rest
        return (← tableOf kvs, rest)
    | cs => scalar cs

/-! ## Documents -/

/-- A document in progress: its tables, and the way to the one that lines belong to. -/
structure Document where
  root : Entries := []
  current : List String := []

namespace Document

/-- Read a header, after its first bracket. -/
def header (d : Document) (cs : List Char) : Option (Document × List Char) :=
  match cs with
  | '[' :: rest => do
    let ((path, name), cs) ← key rest
    match cs with
    | ']' :: ']' :: cs =>
      let rest ← lineRest? cs
      return ({ root := ← d.root.appendTable path name, current := path ++ [name] }, rest)
    | _ => none
  | _ => do
    let ((path, name), cs) ← key cs
    match cs with
    | ']' :: cs =>
      let rest ← lineRest? cs
      return ({ root := ← d.root.defineTable path name, current := path ++ [name] }, rest)
    | _ => none

/-- Read a key and its value into the current table. -/
def line (d : Document) (limit : Nat) (cs : List Char) : Option (Document × List Char) := do
  let (((path, name), v), cs) ← keyValue (value limit depthLimit) cs
  let rest ← lineRest? cs
  let root ← Entries.descend false (fun origin es => es.addDotted path name v origin) d.current
    .defined d.root
  return ({ d with root }, rest)

def lines (limit : Nat) : Nat → Document → List Char → Option Document
  | 0, _, _ => none
  | n + 1, d, cs =>
    match skipLines false cs with
    | [] => some d
    | '[' :: rest => do
      let (d, cs) ← d.header rest
      lines limit n d cs
    | cs => do
      let (d, cs) ← d.line limit cs
      lines limit n d cs

end Document

/-- Read a document: the keys of its root table and their values. -/
def parse (s : String) : Option (List (String × Value)) :=
  let cs := match s.toList with
    | '\ufeff' :: rest => rest
    | cs => cs
  let limit := cs.length + 1
  (Document.lines limit limit {} cs).map fun d => entryValues d.root

end GoAssets.Toml
