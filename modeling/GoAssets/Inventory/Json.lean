import GoAssets.Inventory
import GoAssets.Json.Read
import GoAssets.Json.Write

/-!
# Inventories as JSON

An inventory is written as the list of its bundles. It is read back from any spelling of the
same records; the group of an asset may be left out.
-/

namespace GoAssets

open Json (Value)

/-! ## Writing -/

def Group.toJson (g : Group) : Value :=
  .ofFields [("name", .ofText g.name), ("local_path", .ofText g.localPath),
    ("full_path", .ofText g.fullPath.text)]

/-- An asset as a record; without a group the field is null. -/
def Asset.toJson (a : Asset) : Value :=
  .ofFields [("name", .ofText a.name), ("asset_path", .ofText a.assetPath),
    ("group", (a.group.map Group.toJson).getD .null)]

def Bundle.toJson (b : Bundle) : Value :=
  .ofFields [("caller", .ofText b.caller.text), ("package_name", .ofText b.packageName),
    ("base_dir", .ofText b.baseDir.text), ("assets", .array (b.assets.map Asset.toJson)),
    ("groups", .array (b.groups.map Group.toJson))]

def Inventory.toJson (inv : Inventory) : String :=
  (Value.array (inv.bundles.map Bundle.toJson)).render

/-! ## Reading -/

def Group.ofJson? (v : Value) : Option Group := do
  let [some name, some localPath, some fullPath] ← v.fields? ["name", "local_path", "full_path"]
    | none
  return ⟨← name.text?, ← localPath.text?, ⟨← fullPath.text?⟩⟩

/-- The group of an asset, which may be absent or null. -/
def Asset.groupOfJson? : Option Value → Option (Option Group)
  | none => some none
  | some .null => some none
  | some v => (Group.ofJson? v).map some

def Asset.ofJson? (v : Value) : Option Asset := do
  let [some name, some assetPath, group] ← v.fields? ["name", "asset_path", "group"] | none
  return ⟨← name.text?, ← assetPath.text?, ← groupOfJson? group⟩

def Bundle.ofJson? (v : Value) : Option Bundle := do
  let [some caller, some packageName, some baseDir, some assets, some groups] ←
      v.fields? ["caller", "package_name", "base_dir", "assets", "groups"]
    | none
  return {
    caller := ⟨← caller.text?⟩
    packageName := ← packageName.text?
    baseDir := ⟨← baseDir.text?⟩
    assets := ← (← assets.items?).mapM Asset.ofJson?
    groups := ← (← groups.items?).mapM Group.ofJson? }

def Inventory.ofJson? (s : String) : Option Inventory := do
  return ⟨← (← (← Json.parse s).items?).mapM Bundle.ofJson?⟩

end GoAssets
