/-!
# Writing TOML

A string is written in the plainest form that can hold it: in double quotes as it stands, else in
single quotes, else over several lines in three double or three single quotes, and only if none of
these will do with escapes.
-/

namespace GoAssets.Toml

/-- Control characters that have to be escaped wherever they stand. -/
def isControl (c : Char) : Bool :=
  (decide (c.toNat ≤ 0x1F) && c != '\t' && c != '\n') || c == '\x7f'

def upperHexDigit (n : Nat) : Char :=
  if n < 10 then Char.ofNat ('0'.toNat + n) else Char.ofNat ('A'.toNat + (n - 10))

def fourDigits (n : Nat) : List Char :=
  [n / 4096 % 16, n / 256 % 16, n / 16 % 16, n % 16].map upperHexDigit

/-- A character as it stands between double quotes, quotes and line feeds apart. -/
def escapeChar (c : Char) : List Char :=
  if c = '\x08' then ['\\', 'b']
  else if c = '\t' then ['\\', 't']
  else if c = '\x0c' then ['\\', 'f']
  else if c = '\r' then ['\\', 'r']
  else if c = '\\' then ['\\', '\\']
  else if isControl c then '\\' :: 'u' :: fourDigits c.toNat
  else [c]

/-- The characters between double quotes on one line. -/
def escapeLine (cs : List Char) : List Char :=
  cs.flatMap fun c =>
    if c = '\n' then ['\\', 'n'] else if c = '"' then ['\\', '"'] else escapeChar c

/-- The characters between three double quotes; of three quotes in a row the last is escaped.
`run` is how many quotes stand before. -/
def escapeLines (run : Nat) : List Char → List Char
  | [] => []
  | c :: rest =>
    if c = '"' then
      if run = 2 then '\\' :: '"' :: escapeLines 0 rest else '"' :: escapeLines (run + 1) rest
    else if c = '\n' then '\n' :: escapeLines 0 rest
    else escapeChar c ++ escapeLines 0 rest

/-- The length of the longest run of a character; `run` is how many stand before. -/
def longestRun (q : Char) (run : Nat) : List Char → Nat
  | [] => run
  | c :: rest => if c = q then longestRun q (run + 1) rest else max run (longestRun q 0 rest)

inductive Form where
  | basic
  | literal
  | basicLines
  | literalLines
deriving DecidableEq, Repr

/-- The plainest form that can hold a string. -/
def formOf (cs : List Char) : Form :=
  let noControl := !cs.any isControl
  let noLineFeed := !cs.contains '\n'
  if noControl && !cs.contains '\\' && !cs.contains '"' && noLineFeed then .basic
  else if noControl && !cs.contains '\'' && noLineFeed then .literal
  else if noControl && !cs.contains '\\' && decide (longestRun '"' 0 cs < 3) then .basicLines
  else if noControl && decide (longestRun '\'' 0 cs < 3) then .literalLines
  else if noLineFeed then .basic
  else .basicLines

/-- A string as it is written. The forms over several lines start on a new line if the string has
several. -/
def writeString (s : String) : String :=
  let cs := s.toList
  let start := if cs.contains '\n' then "\n" else ""
  match formOf cs with
  | .basic => "\"" ++ String.ofList (escapeLine cs) ++ "\""
  | .literal => "'" ++ s ++ "'"
  | .basicLines => "\"\"\"" ++ start ++ String.ofList (escapeLines 0 cs) ++ "\"\"\""
  | .literalLines => "'''" ++ start ++ s ++ "'''"

end GoAssets.Toml
