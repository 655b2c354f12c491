import GoAssets.Go.Node
import GoAssets.Text.Classes
import GoAssets.Text.Recognizer

/-!
# Lexemes

The smallest pieces of a Go source text: words, literals, brackets and single marks, and the line
ends between them. Which marks make an operator depends on where they stand (`<-` sends a value in
one place and compares with a negative number in another), so a mark is always a single character
that knows whether it touches the mark before it, and the grammar puts them together.

`lexemes` never fails: a character that starts nothing is a mark, which no rule of the grammar
takes. The character NUL is a mark too, which ends a statement as a semicolon does; it stands in no
literal and no comment.
-/

namespace GoAssets.Go

inductive Bracket where
  | round
  | square
  | curly
deriving DecidableEq, Repr

/-- The smallest pieces of a source text. -/
inductive Lexeme where
  /-- One or more line ends between two other lexemes, outside of comments. -/
  | line
  /-- An identifier or a keyword. -/
  | word (w : String)
  /-- A string, a rune or a number. -/
  | literal (node : Node)
  /-- A single character of punctuation; `glued` if it directly follows another mark. -/
  | mark (c : Char) (glued : Bool)
  | opening (b : Bracket)
  | closing (b : Bracket)
  /-- The end of the file, if no blank stands before it. -/
  | fileEnd

open Text Text.Recognizer

/-! ## Blanks and comments -/

/-- The characters that may stand between any two lexemes. -/
def isBlank (c : Char) : Bool :=
  c == ' ' || c == '\t' || c == '\n' || c == '\r' || c == '\x0b' || c == '\x0c'

/-- Any character of a text. -/
def isText (c : Char) : Bool := c != '\x00'

/-- The length of the rest of a block comment, when `n` characters of it are read. -/
def blockCommentEnd : Nat → List Char → Option Nat
  | _, [] => none
  | n, '*' :: '/' :: _ => some (n + 2)
  | n, c :: rest => if isText c then blockCommentEnd (n + 1) rest else none

/-- The length of a comment that starts here: up to the end of the line, or up to a closing mark. -/
def comment? : List Char → Option Nat
  | '/' :: '/' :: rest => some (2 + (rest.takeWhile fun c => c != '\n' && isText c).length)
  | '/' :: '*' :: rest => blockCommentEnd 2 rest
  | _ => none

/-! ## Numbers -/

def oneOf (a b : Char) : Recognizer := one (fun c => c == a || c == b)

def underscore : Recognizer := orNothing (one (· == '_'))

def decimalDigits : Recognizer := digits Char.isDigit

/-- An integer in binary, decimal, octal or hexadecimal notation. -/
def integer : Recognizer :=
  let zero := one (· == '0')
  longest [
    andThen zero (andThen (oneOf 'b' 'B') (andThen underscore (digits isBinaryDigit))),
    zero,
    andThen (one (fun c => c.isDigit && c != '0')) (orNothing (andThen underscore decimalDigits)),
    andThen zero (andThen (orNothing (oneOf 'o' 'O')) (andThen underscore (digits isOctalDigit))),
    andThen zero (andThen (oneOf 'x' 'X') (andThen underscore (digits isHexDigit)))]

def exponent (lower upper : Char) : Recognizer :=
  andThen (oneOf lower upper) (andThen (orNothing (oneOf '+' '-')) decimalDigits)

def floating : Recognizer :=
  let point := one (· == '.')
  let decimalExponent := exponent 'e' 'E'
  let hexDigits := digits isHexDigit
  let mantissa := andThen underscore hexDigits
  let hex (r : Recognizer) : Recognizer :=
    andThen (one (· == '0')) (andThen (oneOf 'x' 'X') (andThen r (exponent 'p' 'P')))
  longest [
    andThen decimalDigits
      (andThen point (andThen (orNothing decimalDigits) (orNothing decimalExponent))),
    andThen decimalDigits decimalExponent,
    andThen point (andThen decimalDigits (orNothing decimalExponent)),
    hex (andThen mantissa (andThen point (orNothing hexDigits))),
    hex mantissa,
    hex (andThen point hexDigits)]

def imaginary : Recognizer :=
  let mark := one (· == 'i')
  longest [andThen decimalDigits mark, andThen integer mark, andThen floating mark]

/-- The kind and the length of a number that starts here and is as long as possible. -/
def number? (cs : List Char) : Option (String × Nat) :=
  let found := [("int_literal", integer), ("float_literal", floating),
    ("imaginary_literal", imaginary)].filterMap fun (kind, r) =>
      (r cs).map fun (n, _) => (kind, n)
  match found with
  | [] => none
  | first :: others =>
    some (others.foldl (fun best x => if best.2 < x.2 then x else best) first)

/-! ## Runes and strings -/

def rune : Recognizer :=
  let quoteMark := one (· == '\'')
  let escape := andThen (one (· == '\\')) (longest [
    andThen (one (· == 'x')) (exactly isHexDigit 2),
    exactly isOctalDigit 3,
    andThen (one (· == 'u')) (exactly isHexDigit 4),
    andThen (one (· == 'U')) (exactly isHexDigit 8),
    one (fun c => "abfnrtv\\'\"".toList.contains c)])
  andThen quoteMark
    (andThen (longest [one (fun c => c != '\'' && c != '\\' && isText c), escape]) quoteMark)

/-- An escape in an interpreted string: two or more hexadecimal digits after `x`, four after `u`,
eight after `U`, and any other character by itself. -/
def stringEscape : Recognizer :=
  andThen (one (· == '\\')) (longest [
    andThen (one (· == 'x')) (andThen (exactly isHexDigit 2) (many isHexDigit)),
    andThen (one (· == 'u')) (exactly isHexDigit 4),
    andThen (one (· == 'U')) (exactly isHexDigit 8),
    exactly Char.isDigit 3,
    exactly Char.isDigit 2,
    one (fun c => c != 'x' && c != 'u' && c != 'U' && isText c)])

def blanksAndComment? (cs : List Char) : Option Nat :=
  (comment? (cs.dropWhile isBlank)).map fun n => (cs.takeWhile isBlank).length + n

/-- The length of an interpreted string up to its closing quote, which is included, when `n`
characters of it are read and the next `skipped` ones belong to it. A line can end in a string only
if a comment follows, with which the string goes on. -/
def stringEnd : (skipped n : Nat) → List Char → Option Nat
  | _, _, [] => none
  | skipped + 1, n, _ :: rest => stringEnd skipped (n + 1) rest
  | 0, n, c :: rest =>
    if c = '"' then some (n + 1)
    else if c = '\n' then
      match blanksAndComment? rest with
      | some m => stringEnd m (n + 1) rest
      | none => none
    else if c = '\\' then
      match stringEscape (c :: rest) with
      | some (m, _) => stringEnd (m - 1) (n + 1) rest
      | none => none
    else if isText c then stringEnd 0 (n + 1) rest
    else none

/-- The length of a raw string up to its closing backquote, which is included, when `n` characters
of it are read. -/
def rawStringEnd : Nat → List Char → Option Nat
  | _, [] => none
  | n, c :: rest =>
    if c = '\x60' then some (n + 1)
    else if isText c then rawStringEnd (n + 1) rest
    else none

/-- The kind and the length of a literal that starts here. -/
def literal? (cs : List Char) : Option (String × Nat) :=
  match cs with
  | '"' :: rest => (stringEnd 0 1 rest).map fun n => ("interpreted_string_literal", n)
  | '\x60' :: rest => (rawStringEnd 1 rest).map fun n => ("raw_string_literal", n)
  | '\'' :: _ => (rune cs).map fun (n, _) => ("rune_literal", n)
  | c :: _ => if c.isDigit || c == '.' then number? cs else none
  | [] => none

/-! ## All lexemes -/

/-- The bracket that a character opens, or closes. -/
def bracket? : Char → Option Lexeme
  | '(' => some (.opening .round)
  | ')' => some (.closing .round)
  | '[' => some (.opening .square)
  | ']' => some (.closing .square)
  | '{' => some (.opening .curly)
  | '}' => some (.closing .curly)
  | _ => none

/-- The lexeme that starts with a character, if it is not a blank or a comment, and the number of
characters that belong to it after the first. -/
def lexemeAt (touching : Bool) (c : Char) (rest : List Char) : Option Lexeme × Nat :=
  if c = '\n' then (some .line, 0)
  else if isBlank c then (none, 0)
  else if startsIdentifier c then
    let tail := rest.takeWhile continuesIdentifier
    (some (.word (String.ofList (c :: tail))), tail.length)
  else
    match comment? (c :: rest) with
    | some n => (none, n - 1)
    | none =>
      match literal? (c :: rest) with
      | some (kind, n) => (some (.literal (Node.token kind ((c :: rest).take n))), n - 1)
      | none =>
        match bracket? c with
        | some b => (some b, 0)
        | none => (some (.mark c touching), 0)

/-- What stands directly before a character. -/
inductive Neighbor where
  | blank
  | mark
  | other
deriving DecidableEq, Repr

/-- What stands directly before the character after a lexeme or a piece between lexemes, which starts
with `c`. -/
def neighborAfter (c : Char) : Option Lexeme → Neighbor
  | some (.mark ..) => .mark
  | some .line => .blank
  | some _ => .other
  | none => if isBlank c then .blank else .other

/-- Add a lexeme to those before it, the last one first. Line ends count once. -/
def addLexeme : List Lexeme → Lexeme → List Lexeme
  | .line :: found, .line => .line :: found
  | found, l => l :: found

/-- The lexemes of a text, the last one first, when the next `skipped` characters belong to a
lexeme that is read already. -/
def lexFrom : (skipped : Nat) → Neighbor → List Lexeme → List Char → List Lexeme
  | _, before, found, [] => if before = .blank then found else .fileEnd :: found
  | skipped + 1, before, found, _ :: rest => lexFrom skipped before found rest
  | 0, before, found, c :: rest =>
    match lexemeAt (before == .mark) c rest with
    | (none, n) => lexFrom n (neighborAfter c none) found rest
    | (some l, n) => lexFrom n (neighborAfter c (some l)) (addLexeme found l) rest

/-- A byte order mark at the start of a text does not count. -/
def withoutMark : List Char → List Char
  | '\ufeff' :: rest => rest
  | cs => cs

def lexemes (cs : List Char) : List Lexeme := (lexFrom 0 .blank [] (withoutMark cs)).reverse

end GoAssets.Go
