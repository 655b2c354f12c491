import GoAssets.Path

/-!
# The inventory

What a scan collects. A `Bundle` holds the assets and groups of one directory; within a bundle
an asset name is recorded once, by the first reference to it. The `Inventory` is the list of
bundles in the order in which their directories were first met.
-/

namespace GoAssets

/-- The methods through which assets and groups are declared. -/
inductive AssetMethod where
  | group
  | string
  | mustString
  | bytes
  | mustBytes
deriving DecidableEq, Repr

namespace AssetMethod

def name : AssetMethod → String
  | group => "Group"
  | string => "String"
  | mustString => "MustString"
  | bytes => "Bytes"
  | mustBytes => "MustBytes"

def ofName? (name : String) : Option AssetMethod :=
  match name with
  | "Group" => some group
  | "String" => some string
  | "MustString" => some mustString
  | "Bytes" => some bytes
  | "MustBytes" => some mustBytes
  | _ => none

end AssetMethod

/-- A directory of assets under a name. -/
structure Group where
  name : String
  localPath : String
  fullPath : Path
deriving DecidableEq, Repr, Inhabited

/-- A reference to an asset, by itself or in a group. -/
structure Asset where
  name : String
  assetPath : String
  group : Option Group
deriving DecidableEq, Repr, Inhabited

namespace Asset

/-- A reference through the namespace. -/
def direct (path : String) : Asset := ⟨path, path, none⟩

/-- A reference through a group. -/
def inGroup (path : String) (group : Group) : Asset := ⟨path, path, some group⟩

end Asset

/-- The assets and groups of one directory. -/
structure Bundle where
  caller : Path
  packageName : String
  baseDir : Path
  assets : List Asset := []
  groups : List Group := []
deriving DecidableEq, Repr, Inhabited

namespace Bundle

/-- The bundle of a directory before anything is recorded: `caller` is the file that was met
first, and names the package. -/
def empty (baseDir caller : Path) (packageName : String) : Bundle :=
  { caller, packageName, baseDir }

def hasAsset (b : Bundle) (name : String) : Bool :=
  b.assets.any (·.name == name)

/-- Record an asset unless its name is taken; says whether it was recorded. -/
def addAsset (b : Bundle) (a : Asset) : Bundle × Bool :=
  if b.hasAsset a.name then (b, false) else ({ b with assets := b.assets ++ [a] }, true)

/-- Record a group, also one whose name is taken. -/
def addGroup (b : Bundle) (g : Group) : Bundle :=
  { b with groups := b.groups ++ [g] }

end Bundle

structure Inventory where
  bundles : List Bundle
deriving DecidableEq, Repr

namespace Inventory

def size (inv : Inventory) : Nat := inv.bundles.length

def isEmpty (inv : Inventory) : Bool := inv.bundles.isEmpty

/-- The bundle of a directory, in whatever spelling it is asked for. -/
def bundleFor? (inv : Inventory) (dir : Path) : Option Bundle :=
  inv.bundles.find? (fun b => b.baseDir.components == dir.components)

def assetCount (inv : Inventory) : Nat := (inv.bundles.flatMap (·.assets)).length

def groupCount (inv : Inventory) : Nat := (inv.bundles.flatMap (·.groups)).length

end Inventory

end GoAssets
