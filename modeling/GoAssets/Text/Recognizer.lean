/-!
# Parsers and recognizers

A `Parser` reads something from the front of a text and leaves the rest. A `Recognizer` only says
how many characters a lexeme takes and what follows it; recognizers are combined like the regular
expressions of a standard.
-/

namespace GoAssets

/-- Reads something from the front of a text and leaves the rest. -/
abbrev Parser (α : Type) := List Char → Option (α × List Char)

namespace Text

/-- The length of a lexeme and the text after it. -/
abbrev Recognizer := List Char → Option (Nat × List Char)

namespace Recognizer

def one (p : Char → Bool) : Recognizer
  | [] => none
  | c :: rest => if p c then some (1, rest) else none

def andThen (a b : Recognizer) : Recognizer := fun cs =>
  match a cs with
  | none => none
  | some (n, rest) => (b rest).map fun (m, rest) => (n + m, rest)

def orNothing (a : Recognizer) : Recognizer := fun cs => some ((a cs).getD (0, cs))

/-- The longest of several lexemes, and the first of those of equal length. -/
def longest (rs : List Recognizer) : Recognizer := fun cs =>
  rs.foldl (fun best r =>
    match best, r cs with
    | none, found => found
    | best, none => best
    | some (n, rest), some (m, rest') => if n < m then some (m, rest') else some (n, rest)) none

def exactly (p : Char → Bool) : Nat → Recognizer
  | 0 => fun cs => some (0, cs)
  | n + 1 => andThen (one p) (exactly p n)

def many (p : Char → Bool) : Recognizer := fun cs =>
  some ((cs.takeWhile p).length, cs.dropWhile p)

/-- The digits after the first one, each possibly preceded by an underscore. -/
def moreDigits (p : Char → Bool) : List Char → Nat × List Char
  | [] => (0, [])
  | [c] => if p c then (1, []) else (0, [c])
  | c :: d :: rest =>
    if p c then
      let (n, rest') := moreDigits p (d :: rest)
      (n + 1, rest')
    else if c = '_' ∧ p d then
      let (n, rest') := moreDigits p rest
      (n + 2, rest')
    else (0, c :: d :: rest)

/-- Digits, with single underscores between them. -/
def digits (p : Char → Bool) : Recognizer
  | [] => none
  | c :: rest =>
    if p c then
      let (n, rest') := moreDigits p rest
      some (n + 1, rest')
    else none

end Recognizer

/-! ## Digits -/

def isHexDigit (c : Char) : Bool :=
  c.isDigit || (decide ('a' ≤ c) && decide (c ≤ 'f')) || (decide ('A' ≤ c) && decide (c ≤ 'F'))

def isOctalDigit (c : Char) : Bool := decide ('0' ≤ c) && decide (c ≤ '7')

def isBinaryDigit (c : Char) : Bool := c == '0' || c == '1'

def digitValue (c : Char) : Nat :=
  if c.isDigit then c.toNat - '0'.toNat
  else if decide ('a' ≤ c) && decide (c ≤ 'f') then c.toNat - 'a'.toNat + 10
  else c.toNat - 'A'.toNat + 10

/-- The value of digits in a system of the given base, most significant first; other characters
do not count. -/
def numberValue (base : Nat) (cs : List Char) : Nat :=
  cs.foldl (fun n c => if isHexDigit c then n * base + digitValue c else n) 0

/-- The value of a text of decimal digits, with an optional plus sign. -/
def unsigned? (cs : List Char) : Option Nat :=
  let ds := match cs with
    | '+' :: rest => rest
    | _ => cs
  if ds ≠ [] ∧ ds.all Char.isDigit then some (numberValue 10 ds) else none

end Text

end GoAssets
