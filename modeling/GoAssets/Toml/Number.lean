import GoAssets.Text.Recognizer
import GoAssets.Toml.Value

/-!
# TOML numbers and date-times

Integers are decimal, without leading zeros and with an optional sign, or hexadecimal, octal or
binary after `0x`, `0o` or `0b`; single underscores may stand between digits. A floating-point
number has a fraction or an exponent, or is one of the words `inf` and `nan`; its size must not be
infinite. A date, a time, or both have to be possible.
-/

namespace GoAssets.Toml

open Text (Recognizer)

/-! ## Integers -/

/-- An optional sign. -/
def sign : Recognizer := .orNothing (.one fun c => c == '+' || c == '-')

def decimal : Recognizer :=
  .andThen sign (.longest
    [.one Char.isDigit,
     fun cs => if cs.head? = some '0' then none else Recognizer.digits Char.isDigit cs])

/-- The integer of a value, if it has no more than 64 bits. -/
def inRange (n : Int) : Option Value :=
  if minInteger ≤ n ∧ n ≤ maxInteger then some (.integer n) else none

/-- Digits after the mark of their base. -/
def based (base : Nat) (isDigit : Char → Bool) : Parser Value := fun cs =>
  match Recognizer.digits isDigit cs with
  | none => none
  | some (n, rest) => (inRange (Text.numberValue base (cs.take n))).map fun v => (v, rest)

def integer : Parser Value
  | '0' :: 'x' :: cs => based 16 Text.isHexDigit cs
  | '0' :: 'o' :: cs => based 8 Text.isOctalDigit cs
  | '0' :: 'b' :: cs => based 2 Text.isBinaryDigit cs
  | cs =>
    match decimal cs with
    | none => none
    | some (n, rest) =>
      let size : Int := Text.numberValue 10 (cs.take n)
      (inRange (if cs.head? = some '-' then -size else size)).map fun v => (v, rest)

/-! ## Floating-point numbers -/

/-- The least number that rounds to infinity: half a step above the greatest finite one. -/
def infiniteFrom : Nat := Nat.pow 2 1024 - Nat.pow 2 970

/-- Whether `m · 10 ^ e` rounds to infinity. -/
def isInfinite (m : Nat) (e : Int) : Bool :=
  let magnitude : Int := (Nat.toDigits 10 m).length + e
  if m = 0 then false
  else if magnitude < 300 then false
  else if 320 < magnitude then true
  else decide (infiniteFrom * Nat.pow 10 (-e).toNat ≤ m * Nat.pow 10 e.toNat)

/-- A fraction: a point and digits. -/
def fraction : Recognizer := .andThen (.one (· == '.')) (.digits Char.isDigit)

/-- An exponent: a mark, an optional sign and digits. -/
def exponent : Recognizer :=
  .andThen (.one fun c => c == 'e' || c == 'E') (.andThen sign (.digits Char.isDigit))

/-- The value of an exponent, mark included. -/
def exponentValue (cs : List Char) : Int :=
  let size : Int := Text.numberValue 10 (cs.drop 1)
  if (cs.drop 1).head? = some '-' then -size else size

/-- A floating-point number in digits. -/
def finite : Parser Value := fun cs =>
  match decimal cs with
  | none => none
  | some (n, afterWhole) =>
    let (f, afterFraction) := (fraction afterWhole).getD (0, afterWhole)
    let (x, rest) := (exponent afterFraction).getD (0, afterFraction)
    if f + x = 0 then none
    else
      let fractionDigits := (afterWhole.take f).filter Char.isDigit
      let m := Text.numberValue 10 (cs.take n ++ fractionDigits)
      let e := exponentValue (if x = 0 then ['e', '0'] else afterFraction.take x)
      if cs.head? ≠ some '-' ∧ isInfinite m (e - fractionDigits.length) then none
      else some (.float (String.ofList (cs.take (n + f + x))), rest)

/-- Infinity or no number, with an optional sign. -/
def special : Parser Value := fun cs =>
  let rest := match cs with
    | '+' :: rest => rest
    | '-' :: rest => rest
    | rest => rest
  match rest with
  | 'i' :: 'n' :: 'f' :: rest => some (.float "inf", rest)
  | 'n' :: 'a' :: 'n' :: rest => some (.float "nan", rest)
  | _ => none

/-! ## Dates and times -/

/-- A number of a given number of digits that lies between two bounds. -/
def fixed (width least greatest : Nat) : Parser Nat := fun cs =>
  match Recognizer.exactly Char.isDigit width cs with
  | none => none
  | some (_, rest) =>
    let n := Text.numberValue 10 (cs.take width)
    if least ≤ n ∧ n ≤ greatest then some (n, rest) else none

def daysIn (year month : Nat) : Nat :=
  if month = 2 then
    if year % 4 = 0 ∧ (year % 100 ≠ 0 ∨ year % 400 = 0) then 29 else 28
  else if month = 4 ∨ month = 6 ∨ month = 9 ∨ month = 11 then 30
  else 31

def after? (c : Char) : List Char → Option (List Char)
  | [] => none
  | d :: rest => if d = c then some rest else none

def date? (cs : List Char) : Option (List Char) := do
  let (year, cs) ← fixed 4 0 9999 cs
  let cs ← after? '-' cs
  let (month, cs) ← fixed 2 1 12 cs
  let cs ← after? '-' cs
  let (_, cs) ← fixed 2 1 (daysIn year month) cs
  return cs

/-- The text after a time of day; a minute may have a leap second. -/
def time? (cs : List Char) : Option (List Char) := do
  let (_, cs) ← fixed 2 0 23 cs
  let cs ← after? ':' cs
  let (_, cs) ← fixed 2 0 59 cs
  let cs ← after? ':' cs
  let (_, cs) ← fixed 2 0 60 cs
  match cs with
  | '.' :: c :: rest => if c.isDigit then return rest.dropWhile Char.isDigit else return cs
  | cs => return cs

/-- The text after the distance from universal time. -/
def offset? : List Char → Option (List Char)
  | 'Z' :: cs => some cs
  | 'z' :: cs => some cs
  | c :: cs =>
    if c = '+' ∨ c = '-' then do
      let (_, cs) ← fixed 2 0 23 cs
      let cs ← after? ':' cs
      let (_, cs) ← fixed 2 0 59 cs
      return cs
    else none
  | [] => none

/-- The text after the time that may follow a date. -/
def timeOfDate? : List Char → Option (List Char)
  | [] => none
  | c :: cs =>
    if c = 'T' ∨ c = 't' ∨ c = ' ' then do
      let cs ← time? cs
      return (offset? cs).getD cs
    else none

/-- A date, a time, or both. -/
def dateTime : Parser Value := fun cs =>
  let found := match date? cs with
    | some rest => some ((timeOfDate? rest).getD rest)
    | none => time? cs
  found.map fun rest => (.dateTime (String.ofList (cs.take (cs.length - rest.length))), rest)

def number : Parser Value := fun cs =>
  (dateTime cs).or ((finite cs).or ((special cs).or (integer cs)))

end GoAssets.Toml
