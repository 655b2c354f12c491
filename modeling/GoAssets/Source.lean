import GoAssets.Error
import GoAssets.Go.File
import GoAssets.Go.Recovery
import GoAssets.Syntax.Lowering

/-!
# Reading source files

`parseSource` reads the text of a Go file: its package and its tree, or the reason why the text is
refused. A text that the grammar has no reading for is reported with the place of its first fault and
the number of faults in the tree that is recovered from it. How that tree comes about is a parameter;
it is asked for only then, since every other text has a tree without faults.
-/

namespace GoAssets

structure SourceTree where
  package : String
  root : Tree

/-- The report on a text that is no Go file. Lines and columns count from one. -/
def malformedAs (path : Path) (root : Go.Recovered) : SourceError :=
  let faults := root.search
  let position := faults.first.getD root.start
  .malformed path (position.row + 1) (position.column + 1) faults.count

def parseSource (recover : String → Go.Recovered) (path : Path) (source : String) :
    Except SourceError SourceTree :=
  match Go.parseNode source.toList with
  | none => .error (malformedAs path (recover source))
  | some node =>
    match lower node with
    | .file (some package) body => .ok ⟨package, .file (some package) body⟩
    | _ => .error (.missingPackage path)

end GoAssets
