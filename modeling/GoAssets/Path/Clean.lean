import GoAssets.Path

/-!
# Lexical cleaning and directories

`Path.clean` folds `.` and `name/..` away without looking at a file system. `Path.sourceDir`
is the clean directory that a source file lies in, which is the key of its bundle.
-/

namespace GoAssets.Path

/-- One component on top of the cleaned ones before it, last one first: `.` disappears, `..`
takes back a name, disappears at the root, and otherwise stays. -/
def cleanStep (cleaned : List Component) : Component → List Component
  | .here => cleaned
  | .up =>
    match cleaned with
    | .name _ :: rest => rest
    | .root :: rest => .root :: rest
    | _ => .up :: cleaned
  | c => c :: cleaned

def cleanComponents (cs : List Component) : List Component :=
  (cs.foldl cleanStep []).reverse

/-- The spelling of cleaned components; nothing left means the directory itself. -/
def ofCleaned (cs : List Component) : Path :=
  if cs = [] then ⟨"."⟩ else ofComponents cs

/-- The shortest equivalent spelling of a path. -/
def clean (p : Path) : Path := ofCleaned (cleanComponents p.components)

/-- The components of the directory that holds the last component of a path, if it has one
that is not the root. -/
def parentComponents? (p : Path) : Option (List Component) :=
  match p.components.reverse with
  | [] => none
  | .root :: _ => none
  | _ :: rest => some rest.reverse

/-- The clean directory of a source file; `.` for a bare file name. -/
def sourceDir (file : Path) : Path :=
  match file.parentComponents? with
  | none => ⟨"."⟩
  | some cs => ofCleaned (cleanComponents cs)

end GoAssets.Path
