import GoAssets.Disk

/-!
# Directory trees

A file system given by the files and directories in it. Looking a path up follows its segments
one by one from the root or the working directory; every segment but the last has to lead to a
directory, also if a later `..` leaves it again.
-/

namespace GoAssets

/-- Files and directories by the names that lead to them from the root. -/
structure DirectoryTree where
  directories : List (List String) := []
  files : List (List String × ByteArray) := []

namespace DirectoryTree

/-- The names that a path leads to from a directory, without looking. -/
def namesFrom (cwd : List String) (p : Path) : List String :=
  let start := if p.isAbsolute then [] else cwd.reverse
  ((Path.splitSlash p.text.toList).foldl (fun names segment =>
    if segment = [] ∨ segment = ['.'] then names
    else if segment = ['.', '.'] then names.tail
    else String.ofList segment :: names) start).reverse

/-- Create a directory and the directories above it. -/
def addDirectory (t : DirectoryTree) (names : List String) : DirectoryTree :=
  { t with directories := (List.range (names.length + 1)).map names.take ++ t.directories }

/-- Create a file and the directories above it. -/
def addFile (t : DirectoryTree) (names : List String) (content : ByteArray) : DirectoryTree :=
  let t := t.addDirectory names.dropLast
  { t with files := (names, content) :: t.files }

/-- What a path leads to. -/
inductive Entry where
  | directory (names : List String)
  | file (content : ByteArray)

/-- Follow one segment of a path. -/
def follow (t : DirectoryTree) (entry : Entry) (segment : List Char) : Except IoFailure Entry :=
  match entry with
  | .file _ => .error .notADirectory
  | .directory names =>
    if segment = [] ∨ segment = ['.'] then .ok entry
    else if segment = ['.', '.'] then .ok (.directory names.dropLast)
    else
      let next := names ++ [String.ofList segment]
      match t.files.find? (·.1 == next) with
      | some (_, content) => .ok (.file content)
      | none =>
        if t.directories.contains next then .ok (.directory next) else .error .notFound

def lookup (t : DirectoryTree) (cwd : List String) (p : Path) : Except IoFailure Entry :=
  if p.text.isEmpty then .error .notFound
  else
    let start := if p.isAbsolute then [] else cwd
    (Path.splitSlash p.text.toList).foldlM t.follow (.directory start)

def directorySize : Nat := 4096

/-- The tree as a disk, seen from a working directory. -/
def disk (t : DirectoryTree) (cwd : List String) : Disk where
  size p := do
    match ← t.lookup cwd p with
    | .directory _ => return directorySize
    | .file content => return content.size
  content p := do
    match ← t.lookup cwd p with
    | .directory _ => throw .isADirectory
    | .file content => return content

end DirectoryTree

end GoAssets
