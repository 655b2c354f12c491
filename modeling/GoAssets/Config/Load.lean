import GoAssets.Config.Toml
import GoAssets.Disk
import GoAssets.Log

/-!
# Layered configuration

A configuration is put together from layers, each on top of the ones before: the user's file, the
project's file, the environment, and the settings of the caller. A user file that cannot be read
as text and a size in the environment that is no number are passed over with a warning; everything
else that is wrong with a layer is an error. Only the outcome is validated, so a bad value that a
higher layer replaces does no harm.
-/

namespace GoAssets.Config

/-- The environment variables that matter. Their values are bytes, which need not be text; the
directories among them are given as paths. -/
structure Environment where
  home : Option Path := none
  userProfile : Option Path := none
  ns : Option ByteArray := none
  maxFileSize : Option ByteArray := none

inductive LoadEvent where
  /-- The user's file is passed over. -/
  | unreadableUserFile (cause : ConfigError)
  /-- The size in the environment is passed over. -/
  | sizeNotNumeric (value : String)
deriving DecidableEq, Repr

namespace LoadEvent

def target : String := "embedscan_core::config::embedscan_config"

def record : LoadEvent → Log.Record
  | unreadableUserFile cause =>
    .event .warn target [("message", "ignoring unreadable user config"), ("error", cause.message)]
  | sizeNotNumeric value =>
    .event .warn target
      [("message", "ignoring non-numeric EMBEDSCAN_SCAN_MAX_FILE_SIZE"), ("value", value)]

end LoadEvent

/-- What loading comes to: its reports, and the configuration or the error that prevented it. -/
structure LoadReport where
  journal : List LoadEvent
  result : Except ConfigError Config

/-! ## Layers -/

/-- Where the user's file is, if there is a home directory. -/
def userFile? (env : Environment) : Option Path :=
  (env.home.or env.userProfile).map fun home => (home.push ".embedscan").push "config.toml"

def projectFile (root : Path) : Path := root.push "embedscan.toml"

def fileLayer (readError : String → String) (disk : Disk) (file : Path) : Except ConfigError Config :=
  match disk.text file with
  | .error _ => .error (.fileNotFound file)
  | .ok s => decode readError file s

/-- The layer of the user's file, if it exists. -/
def userLayer (readError : String → String) (disk : Disk) (env : Environment) :
    List LoadEvent × Except ConfigError Config :=
  match (userFile? env).filter disk.contains with
  | none => ([], .ok {})
  | some file =>
    match fileLayer readError disk file with
    | .error (.malformed path reason) => ([], .error (.malformed path reason))
    | .error cause => ([.unreadableUserFile cause], .ok {})
    | .ok c => ([], .ok c)

def projectLayer (readError : String → String) (disk : Disk) (root : Path) :
    Except ConfigError Config :=
  if disk.contains (projectFile root) then fileLayer readError disk (projectFile root) else .ok {}

/-- The number that a text of digits is, if it fits into 64 bits. -/
def size? (s : String) : Option UInt64 :=
  match Text.unsigned? s.toList with
  | some n => if n < UInt64.size then some n.toUInt64 else none
  | none => none

/-- The layer of the environment: a namespace that is not empty, and a size. -/
def environmentLayer (env : Environment) : List LoadEvent × Config :=
  let ns := (env.ns.bind String.fromUTF8?).filter (fun s => !s.isEmpty)
  match env.maxFileSize.bind String.fromUTF8? with
  | none => ([], { ns })
  | some s =>
    match size? s with
    | some n => ([], { ns, maxFileSize := some n })
    | none => ([.sizeNotNumeric s], { ns })

/-! ## Loading -/

/-- Load the configuration of the project at `root`. -/
def load (readError : String → String) (disk : Disk) (env : Environment) (root : Path)
    (overrides : Config) : LoadReport :=
  match userLayer readError disk env with
  | (journal, .error e) => { journal, result := .error e }
  | (journal, .ok user) =>
    match projectLayer readError disk root with
    | .error e => { journal, result := .error e }
    | .ok project =>
      let (more, environment) := environmentLayer env
      let config := overrides.onTopOf (environment.onTopOf (project.onTopOf user))
      { journal := journal ++ more, result := config.validate.map fun _ => config }

end GoAssets.Config
