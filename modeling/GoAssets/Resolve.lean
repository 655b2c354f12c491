import GoAssets.Error
import GoAssets.GroupTable
import GoAssets.Statement

/-!
# What an asset statement means

`resolve` decides what a statement declares: a call on the namespace declares a group or refers
to an asset directly, a call on a declared group refers to an asset in it, and any other call
means nothing. How a group literal becomes a directory is a parameter, since it may fail.
-/

namespace GoAssets

/-- What a statement turned out to be. -/
inductive Resolution where
  | groupDeclared (group : Group)
  | assetAdded (asset : Asset)
  | duplicateAsset (name : String)
  | ignored
deriving DecidableEq, Repr

/-- How the directory of a group is found from the directory of its file and its literal. -/
abbrev GroupLocator := Path → String → Except IoFailure Path

/-- What comes of a statement, and the bundle and the groups as they are after it. -/
structure Resolved where
  outcome : Except ScanError Resolution
  bundle : Bundle
  groups : GroupTable
  /-- The group that a new declaration of its name replaced. -/
  replaced : Option Group := none

def recordAsset (asset : Asset) (bundle : Bundle) (groups : GroupTable) : Resolved :=
  match bundle.addAsset asset with
  | (bundle', true) => { outcome := .ok (.assetAdded asset), bundle := bundle', groups }
  | (bundle', false) => { outcome := .ok (.duplicateAsset asset.name), bundle := bundle', groups }

/-- Declare a group: it joins the bundle and becomes the group of its name. -/
def declareGroup (group : Group) (bundle : Bundle) (groups : GroupTable) : Resolved :=
  { outcome := .ok (.groupDeclared group)
    bundle := bundle.addGroup group
    groups := groups.register group
    replaced := groups.get? group.name }

/-- Resolve a statement of `file` against the bundle of its directory and the groups declared so
far. -/
def resolve (ns : String) (locate : GroupLocator) (file : Path) (stmt : Statement)
    (bundle : Bundle) (groups : GroupTable) : Resolved :=
  let call := stmt.call
  if call.receiver = ns then
    match AssetMethod.ofName? call.method with
    | none => { outcome := .error (.unknownMethod ns call.method file), bundle, groups }
    | some .group =>
      match locate bundle.baseDir call.path with
      | .error cause => { outcome := .error (.groupPath file call.path cause), bundle, groups }
      | .ok fullPath => declareGroup ⟨stmt.target, call.path, fullPath⟩ bundle groups
    | some _ => recordAsset (.direct call.path) bundle groups
  else
    match groups.get? call.receiver with
    | some group => recordAsset (.inGroup call.path group) bundle groups
    | none => { outcome := .ok .ignored, bundle, groups }

/-! ## Wording -/

def Group.text (g : Group) : String :=
  "Group \x7b name: " ++ Text.quote g.name ++ ", local_path: " ++ Text.quote g.localPath
    ++ ", full_path: " ++ Text.quote g.fullPath.text ++ " \x7d"

def Asset.text (a : Asset) : String :=
  "AssetReference \x7b name: " ++ Text.quote a.name ++ ", asset_path: " ++ Text.quote a.assetPath
    ++ ", group: "
    ++ (match a.group with
        | some g => "Some(" ++ g.text ++ ")"
        | none => "None")
    ++ " \x7d"

def Resolution.text : Resolution → String
  | .groupDeclared group => "GroupDeclared(" ++ group.text ++ ")"
  | .assetAdded asset => "AssetAdded(" ++ asset.text ++ ")"
  | .duplicateAsset name => "DuplicateAsset(" ++ Text.quote name ++ ")"
  | .ignored => "Ignored"

end GoAssets
