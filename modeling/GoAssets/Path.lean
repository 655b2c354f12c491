/-!
# Paths

A `Path` is kept as it was spelled; its meaning is its list of `Component`s. Repeated and
trailing slashes never matter, and a `.` matters only as the first segment of a relative path.
Two spellings are the same directory exactly when their components are equal.
-/

namespace GoAssets

/-- A slash-separated path, as it was spelled. -/
structure Path where
  text : String
deriving DecidableEq, Hashable, Repr, Inhabited

namespace Path

/-- One step of a path: the root, a leading `.`, a `..`, or a name. -/
inductive Component where
  | root
  | here
  | up
  | name (text : String)
deriving DecidableEq, Hashable, Repr

/-- The text of a component where it stands alone. -/
def Component.text : Component → String
  | .root => "/"
  | .here => "."
  | .up => ".."
  | .name text => text

/-- The segments between slashes, empty ones included. -/
def splitSlash : List Char → List (List Char)
  | [] => [[]]
  | c :: cs =>
    if c == '/' then [] :: splitSlash cs
    else
      match splitSlash cs with
      | [] => [[c]]
      | segment :: segments => (c :: segment) :: segments

/-- What a segment after the first contributes: nothing if it is empty or `.`. -/
def innerComponent? (segment : List Char) : Option Component :=
  if segment = [] ∨ segment = ['.'] then none
  else if segment = ['.', '.'] then some .up
  else some (.name (String.ofList segment))

/-- The components of a character list read as a path. -/
def componentsOf (cs : List Char) : List Component :=
  match splitSlash cs with
  | [] => []
  | first :: rest =>
    let inner := rest.filterMap innerComponent?
    if first = [] then
      if rest = [] then [] else .root :: inner
    else if first = ['.'] then .here :: inner
    else (innerComponent? first).toList ++ inner

def components (p : Path) : List Component := componentsOf p.text.toList

/-- A path that starts with a slash does not depend on the working directory. -/
def isAbsolute (p : Path) : Bool := p.text.toList.head? == some '/'

/-- Append one segment, after a slash unless there is nothing to separate from. -/
def push (p : Path) (segment : String) : Path :=
  match p.text.toList.getLast? with
  | none => ⟨segment⟩
  | some '/' => ⟨p.text ++ segment⟩
  | some _ => ⟨p.text ++ "/" ++ segment⟩

/-- The plainest spelling of a list of components: single slashes between them. -/
def ofComponents (cs : List Component) : Path :=
  cs.foldl (fun p c => p.push c.text) ⟨""⟩

end Path

end GoAssets
