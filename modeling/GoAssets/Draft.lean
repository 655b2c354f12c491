import GoAssets.Registry
import GoAssets.Resolve

/-!
# Inventories in progress

A draft is the registry of bundles together with the table of groups. Each operation enters the
directory that it works on, so that a directory has a bundle as soon as it is mentioned, and then
changes that bundle, the table, or both.
-/

namespace GoAssets

/-- Bundles and groups that are being collected. -/
structure Draft where
  registry : Registry := .empty
  groups : GroupTable := .empty

namespace Draft

/-- Enter a directory and show its bundle. -/
def enter (d : Draft) (dir caller : Path) (packageName : String) : Draft × Bundle :=
  let (registry, bundle) := d.registry.edit dir caller packageName fun b => (b, b)
  ({ d with registry }, bundle)

/-- Record an asset in a directory; says whether its name was new there. -/
def addAsset (d : Draft) (dir caller : Path) (packageName : String) (asset : Asset) :
    Draft × Bool :=
  let (registry, added) := d.registry.edit dir caller packageName (·.addAsset asset)
  ({ d with registry }, added)

/-- Record a group in a directory, without declaring its name; shows the bundle. -/
def addGroup (d : Draft) (dir caller : Path) (packageName : String) (group : Group) :
    Draft × Bundle :=
  let (registry, bundle) := d.registry.edit dir caller packageName fun b =>
    (b.addGroup group, b.addGroup group)
  ({ d with registry }, bundle)

/-- Make a group the one of its name; shows the group that it replaces. -/
def register (d : Draft) (group : Group) : Draft × Option Group :=
  ({ d with groups := d.groups.register group }, d.groups.get? group.name)

def resolve (d : Draft) (ns : String) (locate : GroupLocator) (dir file : Path)
    (packageName : String) (stmt : Statement) : Draft × Resolved :=
  let (registry, r) := d.registry.edit dir file packageName fun b =>
    let r := GoAssets.resolve ns locate file stmt b d.groups
    (r.bundle, r)
  ({ registry, groups := r.groups }, r)

end Draft

end GoAssets
