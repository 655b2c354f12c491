import Std.Data.HashMap
import GoAssets.Inventory

/-!
# Groups by name

The groups that item calls can refer to. One table serves a whole scan, so a group declared in
one file is known in the files after it; declaring a name again replaces the earlier group.
-/

namespace GoAssets

/-- The latest group of each name. -/
structure GroupTable where
  groups : Std.HashMap String Group := {}

namespace GroupTable

def empty : GroupTable := {}

def get? (t : GroupTable) (name : String) : Option Group := t.groups[name]?

/-- Make a group the one of its name. -/
def register (t : GroupTable) (g : Group) : GroupTable := ⟨t.groups.insert g.name g⟩

def size (t : GroupTable) : Nat := t.groups.size

def isEmpty (t : GroupTable) : Bool := t.groups.isEmpty

end GroupTable

end GoAssets
