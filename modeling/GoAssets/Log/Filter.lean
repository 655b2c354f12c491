import GoAssets.Log
import GoAssets.Text.Classes
import GoAssets.Text.Recognizer

/-!
# Log filters

A filter is a list of directives, the most specific first: a directive sets the level for the
targets that start with its own, and the first directive that applies to a record decides. A
text that is no filter means the default one.
-/

namespace GoAssets.Log

/-- The level for the targets that start with `target`, or for all of them. -/
structure Directive where
  target : Option String
  level : Level
deriving DecidableEq, Repr

namespace Directive

def text (d : Directive) : String :=
  match d.target with
  | some target => target ++ "=" ++ d.level.text
  | none => d.level.text

def appliesTo (d : Directive) (target : String) : Bool :=
  match d.target with
  | some start => start.toList.isPrefixOf target.toList
  | none => true

/-- Whether `a` comes before `b` in a filter: longer targets first, then the greater text, and
a directive for all targets last. -/
def precedes (a b : Directive) : Bool :=
  match a.target, b.target with
  | some s, some t =>
    if s.utf8ByteSize = t.utf8ByteSize then decide (t < s)
    else decide (t.utf8ByteSize < s.utf8ByteSize)
  | some _, none => true
  | none, _ => false

end Directive

/-! ## Reading -/

/-- A level by its name, in either case, or by its number. -/
def Level.ofText? (s : String) : Option Level :=
  let named := match s.toLower with
    | "off" => some .off
    | "error" => some .error
    | "warn" => some .warn
    | "info" => some .info
    | "debug" => some .debug
    | "trace" => some .trace
    | _ => none
  match Text.unsigned? s.toList with
  | some 0 => some .off
  | some 1 => some .error
  | some 2 => some .warn
  | some 3 => some .info
  | some 4 => some .debug
  | some 5 => some .trace
  | _ => named

def startsDirective (c : Char) : Bool :=
  c == '-' || c == ':' || c == '_' || Text.isAlphanumeric c

/-- Read one directive: `target=level`, `target=` for every level, a level alone, or a target
alone for every level of it. -/
def Directive.ofChars? (cs : List Char) : Option Directive :=
  match cs with
  | [] => some ⟨none, .trace⟩
  | c :: _ =>
    if startsDirective c then
      let word := cs.takeWhile (· != '=')
      match cs.dropWhile (· != '=') with
      | [] =>
        match Level.ofText? (String.ofList word) with
        | some level => some ⟨none, level⟩
        | none => some ⟨some (String.ofList word), .trace⟩
      | _ :: [] => some ⟨some (String.ofList word), .trace⟩
      | _ :: level => (Level.ofText? (String.ofList level)).map (⟨some (String.ofList word), ·⟩)
    else none

def splitCommas : List Char → List (List Char)
  | [] => [[]]
  | c :: cs =>
    if c == ',' then [] :: splitCommas cs
    else
      match splitCommas cs with
      | [] => [[c]]
      | piece :: pieces => (c :: piece) :: pieces

/-! ## Filters -/

/-- Directives in the order in which they are asked. -/
structure Filter where
  directives : List Directive
deriving DecidableEq, Repr

namespace Filter

/-- Put a directive in its place; it replaces one for the same targets. -/
def insertDirective (d : Directive) : List Directive → List Directive
  | [] => [d]
  | e :: rest =>
    if d.target = e.target then d :: rest
    else if d.precedes e then d :: e :: rest
    else e :: insertDirective d rest

/-- The filter of a list of directives; of two for the same targets the last one counts. -/
def ofDirectives (ds : List Directive) : Filter :=
  ⟨ds.foldl (fun filter d => insertDirective d filter) []⟩

/-- Read a filter: directives between commas, where empty pieces do not matter. -/
def ofText? (s : String) : Option Filter :=
  let pieces := (splitCommas s.toList).filter (fun piece => !piece.isEmpty)
  (pieces.mapM Directive.ofChars?).map ofDirectives

def default : Filter := ⟨[⟨some "embedscan", .info⟩]⟩

/-- The filter for an optional text: the default one if it is absent or cannot be read. -/
def build (directives : Option String) : Filter :=
  (directives.bind ofText?).getD default

def text (f : Filter) : String :=
  ",".intercalate (f.directives.map Directive.text)

/-- Whether the filter lets records of a level and a target through. -/
def enables (f : Filter) (level : Level) (target : String) : Bool :=
  match f.directives.find? (·.appliesTo target) with
  | some d => decide (level.rank ≤ d.level.rank)
  | none => false

def keep (f : Filter) (records : List Record) : List Record :=
  records.filter (fun r => f.enables r.level r.target)

end Filter

end GoAssets.Log
