import GoAssets.Config
import GoAssets.Disk
import GoAssets.Journal
import GoAssets.Outcome
import GoAssets.Path.Group
import GoAssets.Registry
import GoAssets.Source

/-!
# Scanning

A scan looks at files one after another. The asset statements of each are resolved in the order of
a walk against the bundle of its directory and the groups declared so far, in this file or an
earlier one. An error that concerns one file only is noted, and the scan goes on with the next
file; any other error ends it. Everything that happens is entered in a journal, which is kept also
when the scan fails.
-/

namespace GoAssets

/-- What a scan needs to know: the namespace of asset calls, the largest size of a file, how the
directories of groups are found, and which tree a text that is no Go file still has. -/
structure Scanner where
  ns : String
  limit : Option UInt64
  locate : GroupLocator
  recover : String → Go.Recovered

/-- The scanner of a configuration, if the configuration is valid. -/
def Scanner.ofConfig (config : Config) (locate : GroupLocator) (recover : String → Go.Recovered) :
    Except Error Scanner :=
  match config.validate with
  | .error e => .error (.config e)
  | .ok _ =>
    .ok { ns := config.effectiveNamespace, limit := config.effectiveMaxFileSize, locate, recover }

structure Session where
  registry : Registry := .empty
  groups : GroupTable := .empty
  files : Nat := 0
  errors : List Error := []
  journal : Array ScanEvent := #[]

/-- What a scan comes to: its journal, and the inventory with the errors that did not end the
scan, or the error that did. -/
structure ScanReport where
  journal : List ScanEvent
  result : Except Error (Outcome Inventory)

/-! ## One file -/

/-- The part of a scan in progress that the statements of one file change. -/
structure FileState where
  bundle : Bundle
  groups : GroupTable
  journal : Array ScanEvent

def FileState.resolve (sc : Scanner) (file : Path) (stmt : Statement) (s : FileState) :
    FileState × Option ScanError :=
  let r := GoAssets.resolve sc.ns sc.locate file stmt s.bundle s.groups
  let journal := s.journal ++ r.events
  match r.outcome with
  | .error e => ({ bundle := r.bundle, groups := r.groups, journal }, some e)
  | .ok resolution =>
    let event := match resolution with
      | .ignored => ScanEvent.passedOver file stmt
      | resolution => ScanEvent.resolved file stmt resolution
    ({ bundle := r.bundle, groups := r.groups, journal := journal.push event }, none)

/-- Look at a node of a file: nothing happens unless it is an asset statement. -/
def FileState.visit (sc : Scanner) (file : Path) : Tree.Visitor FileState ScanError :=
  fun node s =>
    match node.statement? with
    | none => (s, none)
    | some stmt => s.resolve sc file stmt

namespace Session

/-- Note an error that concerns one file only. -/
def skip (s : Session) (cause : ScanError) : Session :=
  { s with errors := s.errors ++ [.scan cause], journal := s.journal.push (.abandoned cause) }

/-- Act on an error: note it, or end the scan. -/
def meet (s : Session) (cause : ScanError) : Session × Option Error :=
  if cause.isFileScoped then (s.skip cause, none) else (s, some (.scan cause))

def scanTree (s : Session) (sc : Scanner) (file : Path) (tree : SourceTree) :
    Session × Option Error :=
  let (registry, i) := s.registry.enter file.sourceDir file tree.package
  match registry.bundleAt? i with
  | none => (s, none)
  | some bundle =>
    let (state, stop) := tree.root.walk (FileState.visit sc file)
      { bundle, groups := s.groups, journal := s.journal }
    let s := { s with
      registry := registry.update i state.bundle
      groups := state.groups
      files := s.files + 1
      journal := state.journal }
    match stop with
    | none => (s, none)
    | some cause => s.meet cause

def scanText (s : Session) (sc : Scanner) (file : Path) (source : String) :
    Session × Option Error :=
  match parseSource sc.recover file source with
  | .error e => (s, some (.source e))
  | .ok tree => s.scanTree sc file tree

def tooLarge? (sc : Scanner) (file : Path) (size : Nat) : Option ScanError :=
  match sc.limit with
  | some limit =>
    if limit.toNat < size then some (.fileTooLarge file size limit.toNat) else none
  | none => none

def scanSource (sc : Scanner) (input : Path × String) (s : Session) : Session × Option Error :=
  let (file, source) := input
  match tooLarge? sc file source.utf8ByteSize with
  | some cause => s.meet cause
  | none => s.scanText sc file source

/-- The text of a file on disk. With a limit, the size is asked for first, and a file that is too
large is not read. -/
def readSource (sc : Scanner) (disk : Disk) (file : Path) : Except ScanError String := do
  if sc.limit.isSome then
    match disk.size file with
    | .error cause => throw (.unreadable file cause)
    | .ok size =>
      match tooLarge? sc file size with
      | some cause => throw cause
      | none => pure ()
  match disk.text file with
  | .error cause => throw (.unreadable file cause)
  | .ok source => return source

def scanFile (sc : Scanner) (disk : Disk) (file : Path) (s : Session) : Session × Option Error :=
  match readSource sc disk file with
  | .error cause => s.meet cause
  | .ok source => s.scanText sc file source

/-! ## Whole scans -/

/-- Scan inputs one after another, until one of them ends the scan. -/
def scanAll {α : Type} (step : α → Session → Session × Option Error) (s : Session) :
    List α → Session × Option Error
  | [] => (s, none)
  | input :: inputs =>
    match step input s with
    | (s, some e) => (s, some e)
    | (s, none) => scanAll step s inputs

/-- A scan of two lists of inputs goes on with the second where the first left it, unless the first
ended it. -/
theorem scanAll_append {α : Type} (step : α → Session → Session × Option Error) (s : Session)
    (xs ys : List α) :
    scanAll step s (xs ++ ys)
      = match scanAll step s xs with
        | (s', some e) => (s', some e)
        | (s', none) => scanAll step s' ys := by
  induction xs generalizing s with
  | nil => rfl
  | cons x xs ih =>
      rw [List.cons_append, scanAll, scanAll]
      cases step x s with
      | mk s' stop =>
          cases stop with
          | some e => rfl
          | none => exact ih s'

def summary (s : Session) : ScanSummary :=
  let inventory := s.registry.inventory
  { files := s.files
    bundles := inventory.size
    groups := inventory.groupCount
    assets := inventory.assetCount
    skipped := s.errors.length }

/-- The report of a scan that went through all its inputs or was ended by an error. -/
def report : Session × Option Error → ScanReport
  | (s, some e) => { journal := s.journal.toList, result := .error e }
  | (s, none) =>
    { journal := (s.journal.push (.completed s.summary)).toList
      result := .ok { data := s.registry.inventory, errors := s.errors } }

/-- A scan that starts, with the number of its files if they are on disk. -/
def start (files : Option Nat) : Session := { journal := #[.started files] }

end Session

/-- Scan files that are held in memory. -/
def Scanner.scanSources (sc : Scanner) (inputs : List (Path × String)) : ScanReport :=
  Session.report (Session.scanAll (Session.scanSource sc) (Session.start none) inputs)

/-- Scan files on disk. -/
def Scanner.scan (sc : Scanner) (disk : Disk) (files : List Path) : ScanReport :=
  Session.report (Session.scanAll (Session.scanFile sc disk) (Session.start (some files.length)) files)

end GoAssets
