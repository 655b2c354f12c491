import GoAssets.Json.Value

/-!
# Writing JSON

Values are written over several lines, two blanks for each level of nesting; an empty array or
object stays on its line. In strings only what has to be escaped is.
-/

namespace GoAssets.Json

def hexDigit (n : Nat) : Char :=
  if n < 10 then Char.ofNat ('0'.toNat + n) else Char.ofNat ('a'.toNat + (n - 10))

/-- A character as it stands in a string: quotes, backslashes and control characters are
escaped, those with a letter of their own by it. -/
def escapeChar (c : Char) : List Char :=
  if c = '"' then ['\\', '"']
  else if c = '\\' then ['\\', '\\']
  else if c = '\x08' then ['\\', 'b']
  else if c = '\x0c' then ['\\', 'f']
  else if c = '\n' then ['\\', 'n']
  else if c = '\r' then ['\\', 'r']
  else if c = '\t' then ['\\', 't']
  else if c.toNat < 32 then ['\\', 'u', '0', '0', hexDigit (c.toNat / 16), hexDigit (c.toNat % 16)]
  else [c]

/-- A string in quotes. One that stands for no text is written as half of a surrogate pair. -/
def writeString : Quoted → List Char
  | some s => '"' :: (s.toList.flatMap escapeChar ++ ['"'])
  | none => "\"\\ud800\"".toList

/-- A new line at a level of nesting. -/
def newLine (depth : Nat) : List Char := '\n' :: List.replicate (2 * depth) ' '

mutual

/-- A value, where lines inside it are nested to the given depth. -/
def Value.write (depth : Nat) : Value → List Char
  | .null => "null".toList
  | .bool true => "true".toList
  | .bool false => "false".toList
  | .number spelling => spelling.toList
  | .string text => writeString text
  | .array [] => ['[', ']']
  | .array (v :: vs) =>
    '[' :: (newLine (depth + 1) ++ v.write (depth + 1) ++ writeItems (depth + 1) vs
      ++ newLine depth ++ [']'])
  | .object [] => ['\x7b', '\x7d']
  | .object ((key, v) :: ms) =>
    '\x7b' :: (newLine (depth + 1) ++ writeString key ++ ": ".toList ++ v.write (depth + 1)
      ++ writeMembers (depth + 1) ms ++ newLine depth ++ ['\x7d'])

/-- The items of an array after the first, each after a comma on a line of its own. -/
def writeItems (depth : Nat) : List Value → List Char
  | [] => []
  | v :: vs => ',' :: (newLine depth ++ v.write depth ++ writeItems depth vs)

/-- The members of an object after the first, each after a comma on a line of its own. -/
def writeMembers (depth : Nat) : List (Quoted × Value) → List Char
  | [] => []
  | (key, v) :: ms =>
    ',' :: (newLine depth ++ writeString key ++ ": ".toList ++ v.write depth
      ++ writeMembers depth ms)

end

def Value.render (v : Value) : String := String.ofList (v.write 0)

end GoAssets.Json
