/-!
# Log records

What the library reports about its work: events and the spans around them, each with a level,
the name of the part that speaks (`target`), and named fields in the order they are written.
-/

namespace GoAssets.Log

/-- How important a record is; `off` is no level of a record, only a threshold of a filter. -/
inductive Level where
  | off
  | error
  | warn
  | info
  | debug
  | trace
deriving DecidableEq, Repr

/-- Levels from quiet to talkative. -/
def Level.rank : Level → Nat
  | off => 0
  | error => 1
  | warn => 2
  | info => 3
  | debug => 4
  | trace => 5

def Level.text : Level → String
  | off => "off"
  | error => "error"
  | warn => "warn"
  | info => "info"
  | debug => "debug"
  | trace => "trace"

/-- Named values, in the order in which they are written. -/
abbrev Fields := List (String × String)

/-- One line of the log. -/
inductive Record where
  | event (level : Level) (target : String) (fields : Fields)
  | span (name : String) (level : Level) (target : String) (fields : Fields)
deriving DecidableEq, Repr

def Record.level : Record → Level
  | event level .. => level
  | span _ level .. => level

def Record.target : Record → String
  | event _ target _ => target
  | span _ _ target _ => target

end GoAssets.Log
