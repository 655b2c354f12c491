import GoAssets.Log
import GoAssets.Resolve

/-!
# The journal of a scan

What a scan reports, as data: every statement that it looked at and what became of it, groups that
were declared again, files that were abandoned, and a summary. `ScanEvent.record` gives each event
its level and wording.
-/

namespace GoAssets

/-- What a finished scan counts. -/
structure ScanSummary where
  files : Nat
  bundles : Nat
  groups : Nat
  assets : Nat
  skipped : Nat
deriving DecidableEq, Repr

/-- One step of a scan, as it is reported. -/
inductive ScanEvent where
  /-- The scan starts, with the number of its files if they are read from disk. -/
  | started (files : Option Nat)
  /-- A declaration replaces an earlier group of its name. -/
  | redeclared (previous : Group)
  /-- A statement declared a group or referred to an asset. -/
  | resolved (file : Path) (stmt : Statement) (resolution : Resolution)
  /-- The receiver of a statement is neither the namespace nor a group. -/
  | passedOver (file : Path) (stmt : Statement)
  | abandoned (cause : ScanError)
  | completed (summary : ScanSummary)
deriving DecidableEq, Repr

namespace ScanEvent

def scanTarget : String := "embedscan_analysis::assets::scanner"

def resolveTarget : String := "embedscan_analysis::assets::resolver"

def record : ScanEvent → Log.Record
  | started files =>
    .span "asset_scan" .info scanTarget
      (match files with
        | some n => [("files", toString n)]
        | none => [])
  | redeclared previous =>
    .event .debug resolveTarget
      [("message", "group identifier redeclared"), ("group", previous.name),
       ("previous", previous.fullPath.text)]
  | resolved file stmt resolution =>
    .event .debug scanTarget
      [("message", "asset statement"), ("file", file.text), ("statement", stmt.text),
       ("resolution", resolution.text)]
  | passedOver file stmt =>
    .event .trace scanTarget
      [("message", "receiver not an asset source"), ("file", file.text),
       ("statement", stmt.text)]
  | abandoned cause =>
    .event .warn scanTarget
      [("message", "file abandoned; continuing scan"), ("code", cause.code.text),
       ("error", cause.message)]
  | completed s =>
    .event .info scanTarget
      [("message", "asset scan complete"), ("files", toString s.files),
       ("bundles", toString s.bundles), ("groups", toString s.groups),
       ("assets", toString s.assets), ("skipped", toString s.skipped)]

end ScanEvent

/-- The events of resolving a statement itself. -/
def Resolved.events (r : Resolved) : List ScanEvent :=
  (r.replaced.map ScanEvent.redeclared).toList

end GoAssets
