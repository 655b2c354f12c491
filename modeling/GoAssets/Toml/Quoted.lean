import GoAssets.Text.Recognizer

/-!
# TOML strings

The four forms of a string: in double quotes, where a backslash starts an escape, or in single
quotes, where nothing is special; and each on one line or, in three quotes, over several. Over
several lines a line feed right after the opening quotes does not count, a string may hold up to
two quotes in a row, and up to two may also stand before the closing ones.
-/

namespace GoAssets.Toml

/-- The blanks within a line. -/
def isBlank (c : Char) : Bool := c == ' ' || c == '\t'

/-- The characters that may stand in a string or a comment: no control character but the tab. -/
def isTextChar (c : Char) : Bool :=
  c == '\t' || (decide (0x20 ≤ c.toNat) && c.toNat != 0x7F)

def lineEnd? : List Char → Option (List Char)
  | '\n' :: rest => some rest
  | '\r' :: '\n' :: rest => some rest
  | _ => none

/-! ## Escapes -/

/-- The character that a letter after a backslash stands for. -/
def escapeLetter? (c : Char) : Option Char :=
  if c = 'b' then some '\x08'
  else if c = 't' then some '\t'
  else if c = 'n' then some '\n'
  else if c = 'f' then some '\x0c'
  else if c = 'r' then some '\r'
  else if c = '"' then some '"'
  else if c = '\\' then some '\\'
  else none

/-- The character with a given number in hexadecimal digits. -/
def hexChar? (digits : List Char) : Option Char :=
  let n := Text.numberValue 16 digits
  if digits.all Text.isHexDigit ∧ (n < 0xD800 ∨ 0xDFFF < n ∧ n < 0x110000) then some (Char.ofNat n)
  else none

/-- Put a character in front of what a parser read. -/
def before (c : Option Char) (read : Option (List Char × List Char)) :
    Option (List Char × List Char) :=
  match c, read with
  | some c, some (cs, rest) => some (c :: cs, rest)
  | _, _ => none

/-- Whether nothing but blanks is left on the line. -/
def endsLine (cs : List Char) : Bool := (lineEnd? (cs.dropWhile isBlank)).isSome

/-! ## The four forms -/

/-- The rest of a string in double quotes. -/
def basicBody : Parser (List Char)
  | [] => none
  | '"' :: rest => some ([], rest)
  | '\\' :: 'u' :: a :: b :: c :: d :: rest => before (hexChar? [a, b, c, d]) (basicBody rest)
  | '\\' :: 'U' :: a :: b :: c :: d :: e :: f :: g :: h :: rest =>
    before (hexChar? [a, b, c, d, e, f, g, h]) (basicBody rest)
  | '\\' :: letter :: rest => before (escapeLetter? letter) (basicBody rest)
  | c :: rest => if isTextChar c ∧ c ≠ '\\' then before c (basicBody rest) else none

/-- The rest of a string in three double quotes. A backslash at the end of a line takes away all
blanks and line ends up to the next other character; while they are taken away, `trims` holds. -/
def basicLines (trims : Bool) : Parser (List Char)
  | [] => none
  | '"' :: '"' :: '"' :: '"' :: '"' :: rest => some (['"', '"'], rest)
  | '"' :: '"' :: '"' :: '"' :: rest => some (['"'], rest)
  | '"' :: '"' :: '"' :: rest => some ([], rest)
  | '\r' :: '\n' :: rest =>
    if trims then basicLines true rest else before '\n' (basicLines false rest)
  | '\\' :: 'u' :: a :: b :: c :: d :: rest =>
    before (hexChar? [a, b, c, d]) (basicLines false rest)
  | '\\' :: 'U' :: a :: b :: c :: d :: e :: f :: g :: h :: rest =>
    before (hexChar? [a, b, c, d, e, f, g, h]) (basicLines false rest)
  | '\\' :: letter :: rest =>
    if endsLine (letter :: rest) then basicLines true (letter :: rest)
    else before (escapeLetter? letter) (basicLines false rest)
  | c :: rest =>
    if trims && (isBlank c || c == '\n') then basicLines true rest
    else if c = '\n' ∨ isTextChar c ∧ c ≠ '\\' then before c (basicLines false rest)
    else none

/-- The rest of a string in single quotes. -/
def literalBody : Parser (List Char)
  | [] => none
  | c :: rest =>
    if c = '\'' then some ([], rest)
    else if isTextChar c then before c (literalBody rest)
    else none

/-- The rest of a string in three single quotes. -/
def literalLines : Parser (List Char)
  | [] => none
  | '\'' :: '\'' :: '\'' :: '\'' :: '\'' :: rest => some (['\'', '\''], rest)
  | '\'' :: '\'' :: '\'' :: '\'' :: rest => some (['\''], rest)
  | '\'' :: '\'' :: '\'' :: rest => some ([], rest)
  | '\r' :: '\n' :: rest => before '\n' (literalLines rest)
  | c :: rest => if c = '\n' ∨ isTextChar c then before c (literalLines rest) else none

def dropLineEnd (cs : List Char) : List Char := (lineEnd? cs).getD cs

/-- A string in any form. -/
def string : Parser String := fun cs =>
  let body := match cs with
    | '"' :: '"' :: '"' :: rest => basicLines false (dropLineEnd rest)
    | '\'' :: '\'' :: '\'' :: rest => literalLines (dropLineEnd rest)
    | '"' :: rest => basicBody rest
    | '\'' :: rest => literalBody rest
    | _ => none
  body.map fun (text, rest) => (String.ofList text, rest)

end GoAssets.Toml
