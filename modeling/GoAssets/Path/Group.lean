import GoAssets.Path.Clean

/-!
# Group directories

A group is declared by a literal relative to the directory of its file. `Path.joinLiteral`
appends the literal, also a rooted one, below the base; `Path.groupDir` makes the result
absolute against a working directory and removes `.` and `..`.
-/

namespace GoAssets.Path

/-- The base with the components of the literal appended; a leading slash of the literal is
dropped, so that it never leaves the base. -/
def joinLiteral (base : Path) (literal : String) : Path :=
  (componentsOf literal.toList).foldl
    (fun p c => if c = .root then p else p.push c.text) base

/-- One step of making a path absolute: `..` never leads above the root. -/
def absoluteStep (cleaned : List String) : Component → List String
  | .root => []
  | .here => cleaned
  | .up => cleaned.tail
  | .name text => text :: cleaned

/-- The names below the root that a list of components leads to. -/
def absoluteNames (cs : List Component) : List String :=
  (cs.foldl absoluteStep []).reverse

def ofNames (names : List String) : Path :=
  ofComponents (.root :: names.map .name)

/-- The absolute spelling of a path, seen from the directory `cwd`. -/
def absolutize (cwd p : Path) : Path :=
  ofNames (absoluteNames (cwd.components ++ p.components))

/-- The directory that a group literal declared below `base` stands for. -/
def groupDir (cwd base : Path) (literal : String) : Path :=
  absolutize cwd (joinLiteral base literal)

end GoAssets.Path
