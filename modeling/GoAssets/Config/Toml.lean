import GoAssets.Config
import GoAssets.Toml.Read
import GoAssets.Toml.Write

/-!
# Configurations as TOML

A configuration is the table `scan` of a document, with the keys `namespace` and `max_file_size`.
It may also be written as an array of the two values in this order. Other keys do not matter, a
value of the wrong kind is refused. What the format itself has to say about a text that is refused
(`readError`) or a configuration that cannot be written (`writeError`) is passed on as it is.
-/

namespace GoAssets.Config

open Toml (Value)

/-! ## Reading -/

def nsOf? : Value → Option String
  | .string text => some text
  | _ => none

def sizeOf? : Value → Option UInt64
  | .integer n => if 0 ≤ n then some n.toNat.toUInt64 else none
  | _ => none

def optional? {α : Type} (read : Value → Option α) : Option Value → Option (Option α)
  | none => some none
  | some v => (read v).map some

def ofFields? (ns maxFileSize : Option Value) : Option Config := do
  return { ns := ← optional? nsOf? ns, maxFileSize := ← optional? sizeOf? maxFileSize }

/-- The configuration that a value describes. A date-time counts as a record in which neither key
occurs. -/
def ofValue? : Value → Option Config
  | .table entries => ofFields? (entries.lookup "namespace") (entries.lookup "max_file_size")
  | .array items => ofFields? items[0]? items[1]?
  | .dateTime _ => some {}
  | _ => none

def decode? (s : String) : Option Config := do
  let root ← Toml.parse s
  match root.lookup "scan" with
  | none => return {}
  | some v => ofValue? v

/-- Read the text of a configuration that was found at `origin`. -/
def decode (readError : String → String) (origin : Path) (s : String) : Except ConfigError Config :=
  match decode? s with
  | some c => .ok c
  | none => .error (.malformed origin (readError s))

/-- Read a configuration from a text and validate it. -/
def ofToml (readError : String → String) (s : String) : Except ConfigError Config := do
  let c ← decode readError ⟨"<string>"⟩ s
  c.validate
  return c

/-! ## Writing -/

/-- Write a configuration. A size that is no integer of the format cannot be written. -/
def toToml (writeError : Config → String) (c : Config) : Except ConfigError String :=
  let nsLine := (c.ns.map fun ns => "namespace = " ++ Toml.writeString ns ++ "\n").getD ""
  match c.maxFileSize with
  | none => .ok ("[scan]\n" ++ nsLine)
  | some size =>
    if Toml.maxInteger < size.toNat then .error (.malformed ⟨"<serialization>"⟩ (writeError c))
    else .ok ("[scan]\n" ++ nsLine ++ "max_file_size = " ++ toString size.toNat ++ "\n")

end GoAssets.Config
