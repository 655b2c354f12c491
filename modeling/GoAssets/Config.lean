import GoAssets.Error
import GoAssets.Text.Classes

/-!
# Configuration

What a user may set: the namespace under which asset calls are made, and the largest size of a
file that is looked at. Either may be left open. `Config.onTopOf` puts one configuration on top of
another, field by field, and `Config.validate` refuses values that no scan can use.
-/

namespace GoAssets

/-- The settings of a scan; an absent one has its default. -/
structure Config where
  ns : Option String := none
  maxFileSize : Option UInt64 := none
deriving DecidableEq, Repr

namespace Config

def defaultNamespace : String := "mewn"

def effectiveNamespace (c : Config) : String := c.ns.getD defaultNamespace

/-- The size limit that a scan uses; none means that there is no limit. -/
def effectiveMaxFileSize (c : Config) : Option UInt64 := c.maxFileSize

/-- One configuration on top of another: each field comes from the upper one if it is set there. -/
def onTopOf (upper lower : Config) : Config where
  ns := upper.ns.or lower.ns
  maxFileSize := upper.maxFileSize.or lower.maxFileSize

/-- An underscore or a letter, followed by underscores, letters and digits of any script. -/
def isIdentifier (name : String) : Bool :=
  match name.toList with
  | [] => false
  | c :: rest =>
    (c == '_' || Text.isAlphabetic c) && rest.all (fun c => c == '_' || Text.isAlphanumeric c)

/-- Refuse a namespace that is no identifier, and then a size limit of zero. -/
def validate (c : Config) : Except ConfigError Unit := do
  match c.ns with
  | some name =>
    if !isIdentifier name then
      throw (.invalid "scan.namespace" (Text.quote name ++ " is not a Go identifier"))
  | none => pure ()
  if c.maxFileSize = some 0 then
    throw (.invalid "scan.max_file_size" "must be greater than 0")

end Config

end GoAssets
