import GoAssets.Json.Value
import GoAssets.Text.Recognizer

/-!
# Reading JSON

A strict reader: one value with blanks around it and nothing else. Strings are read in two steps,
first as the numbers of their characters and escapes, then as a text if every surrogate among
these is half of a pair.
-/

namespace GoAssets.Json

/-- The blanks that may stand between tokens. -/
def isBlank (c : Char) : Bool := c == ' ' || c == '\n' || c == '\r' || c == '\t'

def skipBlank (cs : List Char) : List Char := cs.dropWhile isBlank

/-! ## Strings -/

/-- The character that a letter after a backslash stands for. -/
def escapeLetter? (c : Char) : Option Char :=
  if c = '"' then some '"'
  else if c = '\\' then some '\\'
  else if c = '/' then some '/'
  else if c = 'b' then some '\x08'
  else if c = 'f' then some '\x0c'
  else if c = 'n' then some '\n'
  else if c = 'r' then some '\r'
  else if c = 't' then some '\t'
  else none

/-- The numbers of the characters and escapes of a string, up to its closing quote. -/
def units : Parser (List Nat)
  | [] => none
  | c :: rest =>
    if c = '"' then some ([], rest)
    else if c = '\\' then
      match rest with
      | 'u' :: h₁ :: h₂ :: h₃ :: h₄ :: rest =>
        if [h₁, h₂, h₃, h₄].all Text.isHexDigit then
          (units rest).map fun (us, rest) => (Text.numberValue 16 [h₁, h₂, h₃, h₄] :: us, rest)
        else none
      | letter :: rest =>
        match escapeLetter? letter with
        | some meant => (units rest).map fun (us, rest) => (meant.toNat :: us, rest)
        | none => none
      | [] => none
    else if c.toNat < 32 then none
    else (units rest).map fun (us, rest) => (c.toNat :: us, rest)

/-- Whether a number is the first half of a surrogate pair. -/
def isLeading (n : Nat) : Bool := decide (0xD800 ≤ n) && decide (n < 0xDC00)

/-- Whether a number is the second half of a surrogate pair. -/
def isTrailing (n : Nat) : Bool := decide (0xDC00 ≤ n) && decide (n < 0xE000)

/-- The characters that a list of numbers stands for, if its surrogates come in pairs. -/
def pairUnits : List Nat → Option (List Char)
  | [] => some []
  | [n] => if isLeading n || isTrailing n then none else some [Char.ofNat n]
  | n :: m :: rest =>
    if isLeading n then
      if isTrailing m then
        (pairUnits rest).map (Char.ofNat (0x10000 + (n - 0xD800) * 0x400 + (m - 0xDC00)) :: ·)
      else none
    else if isTrailing n then none
    else (pairUnits (m :: rest)).map (Char.ofNat n :: ·)

/-- A string after its opening quote. -/
def stringBody : Parser Quoted := fun cs =>
  (units cs).map fun (us, rest) => ((pairUnits us).map String.ofList, rest)

/-! ## Numbers -/

/-- A part of a number that starts with a mark and has to be complete once the mark is there. -/
def markedPart (mark : Char → Bool) (body : Text.Recognizer) : Text.Recognizer
  | [] => some (0, [])
  | c :: rest => if mark c then (body rest).map fun (n, rest) => (n + 1, rest) else some (0, c :: rest)

/-- A number: an optional minus, digits without leading zeros, and a fraction and an exponent if
they are there. -/
def number : Parser Value := fun cs =>
  let digits : Text.Recognizer := .andThen (.one Char.isDigit) (.many Char.isDigit)
  let whole : Text.Recognizer := .longest
    [.one (· == '0'), .andThen (.one fun c => c.isDigit && c != '0') (.many Char.isDigit)]
  let fraction := markedPart (· == '.') digits
  let exponent := markedPart (fun c => c == 'e' || c == 'E')
    (.andThen (.orNothing (.one fun c => c == '+' || c == '-')) digits)
  let shape : Text.Recognizer :=
    .andThen (.orNothing (.one (· == '-'))) (.andThen whole (.andThen fraction exponent))
  match shape cs with
  | none => none
  | some (n, rest) =>
    if rest.head?.any Char.isDigit then none
    else some (.number (String.ofList (cs.take n)), rest)

/-! ## Values -/

mutual

/-- A value at the front of a text. The fuel bounds the depth and the number of items. -/
def value : Nat → Parser Value
  | 0 => fun _ => none
  | fuel + 1 => fun cs =>
    match cs with
    | 'n' :: 'u' :: 'l' :: 'l' :: rest => some (.null, rest)
    | 't' :: 'r' :: 'u' :: 'e' :: rest => some (.bool true, rest)
    | 'f' :: 'a' :: 'l' :: 's' :: 'e' :: rest => some (.bool false, rest)
    | '"' :: rest => (stringBody rest).map fun (text, rest) => (.string text, rest)
    | '[' :: rest =>
      match skipBlank rest with
      | ']' :: rest => some (.array [], rest)
      | rest =>
        match value fuel rest with
        | none => none
        | some (v, rest) =>
          (moreItems fuel (skipBlank rest)).map fun (vs, rest) => (.array (v :: vs), rest)
    | '\x7b' :: rest =>
      match skipBlank rest with
      | '\x7d' :: rest => some (.object [], rest)
      | rest =>
        match member fuel rest with
        | none => none
        | some (m, rest) =>
          (moreMembers fuel (skipBlank rest)).map fun (ms, rest) => (.object (m :: ms), rest)
    | cs => number cs

/-- The rest of an array after an item: further items after commas, and the closing bracket. -/
def moreItems : Nat → Parser (List Value)
  | 0 => fun _ => none
  | fuel + 1 => fun cs =>
    match cs with
    | ']' :: rest => some ([], rest)
    | ',' :: rest =>
      match value fuel (skipBlank rest) with
      | none => none
      | some (v, rest) => (moreItems fuel (skipBlank rest)).map fun (vs, rest) => (v :: vs, rest)
    | _ => none

/-- A member of an object: a string, a colon and a value. -/
def member : Nat → Parser (Quoted × Value)
  | 0 => fun _ => none
  | fuel + 1 => fun cs =>
    match cs with
    | '"' :: rest =>
      match stringBody rest with
      | none => none
      | some (key, rest) =>
        match skipBlank rest with
        | ':' :: rest => (value fuel (skipBlank rest)).map fun (v, rest) => ((key, v), rest)
        | _ => none
    | _ => none

/-- The rest of an object after a member: further members after commas, and the closing brace. -/
def moreMembers : Nat → Parser (List (Quoted × Value))
  | 0 => fun _ => none
  | fuel + 1 => fun cs =>
    match cs with
    | '\x7d' :: rest => some ([], rest)
    | ',' :: rest =>
      match member fuel (skipBlank rest) with
      | none => none
      | some (m, rest) => (moreMembers fuel (skipBlank rest)).map fun (ms, rest) => (m :: ms, rest)
    | _ => none

end

/-- Read a text that is one value with blanks around it. -/
def parse (s : String) : Option Value :=
  let cs := s.toList
  match value (cs.length + 1) (skipBlank cs) with
  | some (v, rest) => if skipBlank rest = [] then some v else none
  | none => none

end GoAssets.Json
