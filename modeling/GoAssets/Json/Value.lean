/-!
# JSON values

A value as JSON writes it. A number is kept as it is spelled. A quoted string usually stands for a
text, but one in which an escape names half of a surrogate pair alone is well-formed and stands
for none.
-/

namespace GoAssets.Json

/-- What a quoted string stands for. -/
abbrev Quoted := Option String

/-- A JSON value. The members of an object are kept in order, also repeated ones. -/
inductive Value where
  | null
  | bool (value : Bool)
  | number (spelling : String)
  | string (text : Quoted)
  | array (items : List Value)
  | object (members : List (Quoted × Value))

namespace Value

def ofText (s : String) : Value := .string (some s)

def ofFields (fields : List (String × Value)) : Value :=
  .object (fields.map fun (name, v) => (some name, v))

def text? : Value → Option String
  | string text => text
  | _ => none

def items? : Value → Option (List Value)
  | array items => some items
  | _ => none

/-- The value of a field among the members of an object: absent, present once, or refused because
it is repeated. -/
def member? (members : List (Quoted × Value)) (name : String) : Option (Option Value) :=
  match members.filter (fun m => m.1 == some name) with
  | [] => some none
  | [m] => some (some m.2)
  | _ => none

/-- The values of the named fields of a record, in the order of the names. A record is written as an
object, in which other members do not matter and every key has to be a text, or as an array of
exactly its fields. -/
def fields? (names : List String) : Value → Option (List (Option Value))
  | object members =>
    if members.all (fun m => m.1.isSome) then names.mapM (member? members) else none
  | array items => if items.length = names.length then some (items.map some) else none
  | _ => none

end Value

end GoAssets.Json
