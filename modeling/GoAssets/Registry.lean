import Std.Data.HashMap
import GoAssets.Inventory

/-!
# Bundles by directory

The bundles of a scan in progress, in the order in which their directories were first met,
together with an index from directories to positions. A directory is looked up by its
components, so every spelling of it finds the bundle, which keeps the first spelling.
-/

namespace GoAssets

/-- Bundles with an index by directory. -/
structure Registry where
  bundles : Array Bundle := #[]
  index : Std.HashMap (List Path.Component) Nat := {}

namespace Registry

def empty : Registry := {}

/-- Enter a directory: the position of its bundle, which is opened if the directory is new. -/
def enter (r : Registry) (dir caller : Path) (packageName : String) : Registry × Nat :=
  match r.index[dir.components]? with
  | some i => (r, i)
  | none =>
    ({ bundles := r.bundles.push (Bundle.empty dir caller packageName)
       index := r.index.insert dir.components r.bundles.size }, r.bundles.size)

def bundleAt? (r : Registry) (i : Nat) : Option Bundle := r.bundles[i]?

def update (r : Registry) (i : Nat) (b : Bundle) : Registry :=
  { r with bundles := r.bundles.setIfInBounds i b }

/-- Enter a directory and change its bundle. -/
def edit {α : Type} (r : Registry) (dir caller : Path) (packageName : String)
    (change : Bundle → Bundle × α) : Registry × α :=
  let (r, i) := r.enter dir caller packageName
  let (b, a) := change ((r.bundleAt? i).getD (Bundle.empty dir caller packageName))
  (r.update i b, a)

def get? (r : Registry) (dir : Path) : Option Bundle :=
  r.index[dir.components]?.bind r.bundleAt?

def size (r : Registry) : Nat := r.bundles.size

def isEmpty (r : Registry) : Bool := r.bundles.isEmpty

/-- The bundles in the order in which their directories were first met. -/
def inventory (r : Registry) : Inventory := ⟨r.bundles.toList⟩

end Registry

end GoAssets
