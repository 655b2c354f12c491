import GoAssets.Go.Rule

/-!
# Types

The grammar of types: names, generic instances, pointers, arrays, slices, maps, channels, functions,
structs and interfaces. The lists of parameters, of type parameters and of fields belong here too,
since they are written with types.

A type is a sequence of prefixes, such as `*` and `[]`, before a core. Brackets after the core can be
its type arguments, or those of a `~` before it, or belong to something around the type; all these
readings are kept.
-/

namespace GoAssets.Go

open Rule

/-! ## Words -/

/-- The words that start a type and never name one. -/
def isTypeKeyword (w : String) : Bool :=
  ["struct", "interface", "map", "chan", "func"].contains w

def isPredeclared (w : String) : Bool :=
  ["nil", "true", "false", "iota", "new", "make"].contains w

def isClauseKeyword (w : String) : Bool := w == "case" || w == "default"

/-! ## Weights -/

def bareTypeWeight : Int := -1

def genericTypeWeight : Int := 1

def typeArgumentsWeight : Int := 2

/-! ## Places -/

structure TypePlace where
  /-- The end of a line ends the type. -/
  lineEnds : Bool := false
  /-- An expression can stand here as well, so that predeclared names name no types. -/
  joint : Bool := false
  /-- A name can stand here that is followed by an array type, so that the brackets after a name can
  hold a length as well as type arguments. -/
  declares : Bool := false

/-- The items that follow at a place where the type could end. -/
def TypePlace.peek (p : TypePlace) : Rule (List Item) := if p.lineEnds then Rule.peek else peekOn

/-- Whether a type starts here. Where a line ends a type, the words that start clauses do so too. -/
def TypePlace.starts (p : TypePlace) : List Item → Bool
  | .word w :: _ => !(p.lineEnds && isClauseKeyword w)
  | .square _ :: _ | .round _ :: _ | .mark '*' _ :: _ | .mark '~' _ :: _
  | .mark '<' _ :: .mark '-' true :: _ => true
  | _ => false

/-! ## Prefixes and cores -/

/-- What stands before the core of a type. -/
inductive TypePrefix where
  /-- A type of the given kind, with the parts before the inner type. -/
  | wrap (kind : String) (before : List Node)
  /-- All types whose underlying type is the inner type. -/
  | negation

/-- The instance of a generic type whose type arguments follow. Where they could be a length, they
are read as such a text can be. -/
def genericType (place : TypePlace) (base : Node) : Rule Node := do
  match ← place.peek with
  | .square g :: _ =>
    drop 1
    let args ← given (if place.declares then g.calleeArguments else g.typeArguments)
    weigh genericTypeWeight
    return Node.inner "generic_type" [base, args]
  | _ => fail

/-- A type by itself, which then has the weight `bare`, or with type arguments. -/
def withArguments (place : TypePlace) (base : Node) (bare : Int) : Rule Node :=
  (do weigh bare; return base) <|> genericType place base

/-- A type with a name, when the name is read: the name of a package may precede it. -/
def namedType (place : TypePlace) (w : String) : Rule (Node × Int) := do
  match ← place.peek with
  | .mark '.' _ :: _ =>
    drop 1
    let name ← word
    return (Node.inner "qualified_type"
      [wordNode "package_identifier" w, wordNode "type_identifier" name], 0)
  | _ => return (wordNode "type_identifier" w, bareTypeWeight)

/-- A node for the types whose underlying type is the given one. -/
def negatedType (t : Node) : Node := Node.inner "negated_type" [t]

/-- Read the type under prefixes, the innermost first. Of two readings of the same weight the one
that gives brackets to the outermost type is meant, so that one comes first. -/
def applyPrefixes (place : TypePlace) : List TypePrefix → Node → Rule Node
  | [], t => return t
  | .wrap kind before :: rest, t => applyPrefixes place rest (Node.inner kind (before ++ [t]))
  | .negation :: rest, t => do
    let t ← withArguments place (negatedType t) 0
    applyPrefixes place rest t

/-- A type in the making: the prefixes read so far, the innermost first, and whether an expression
could still stand here. -/
structure TypeHead where
  prefixes : List TypePrefix := []
  joint : Bool := false

namespace TypeHead

/-- One more prefix, after which only a type can stand. -/
def add (h : TypeHead) (p : TypePrefix) : TypeHead := ⟨p :: h.prefixes, false⟩

/-- A function type after the word `func`: with a result of one type it is a prefix. -/
def function (place : TypePlace) (h : TypeHead) : Rule (TypeHead ⊕ (List TypePrefix × Node)) := do
  let parameters ← given (← round).parameters
  let items ← place.peek
  match items with
  | .round g :: _ =>
    drop 1
    let results ← given g.parameters
    return .inr (h.prefixes, Node.inner "function_type" [parameters, results])
  | _ =>
    if place.starts items then return .inl (h.add (.wrap "function_type" [parameters]))
    else return .inr (h.prefixes, Node.inner "function_type" [parameters])

def named (place : TypePlace) (h : TypeHead) (w : String) :
    Rule (TypeHead ⊕ (List TypePrefix × Node)) :=
  match w with
  | "chan" => do
    match ← peekOn with
    | .mark '<' _ :: .mark '-' true :: _ => drop 2
    | _ => pure ()
    return .inl (h.add (.wrap "channel_type" []))
  | "map" => do
    let key ← given (← square).key
    return .inl (h.add (.wrap "map_type" [key]))
  | "func" => function place h
  | "struct" => do
    let fields ← given (← curly).fields
    return .inr (h.prefixes, Node.inner "struct_type" [fields])
  | "interface" => do
    let elements ← given (← curly).elements
    return .inr (h.prefixes, Node.inner "interface_type" elements)
  | _ =>
    if h.joint && isPredeclared w then fail
    else do
      let (base, bare) ← namedType place w
      let declares := place.declares && h.prefixes.isEmpty && base.kind == "type_identifier"
      return .inr (h.prefixes, ← withArguments { place with declares } base bare)

def step (place : TypePlace) (h : TypeHead) : Rule (TypeHead ⊕ (List TypePrefix × Node)) := do
  match ← peekOn with
  | .mark '*' _ :: _ =>
    drop 1
    return .inl ⟨.wrap "pointer_type" [] :: h.prefixes, h.joint⟩
  | .mark '~' _ :: _ =>
    drop 1
    return .inl (h.add .negation)
  | .mark '<' _ :: .mark '-' true :: _ =>
    drop 2
    if (← word) = "chan" then return .inl (h.add (.wrap "channel_type" [])) else fail
  | .square g :: _ =>
    drop 1
    if g.isEmpty then return .inl (h.add (.wrap "slice_type" []))
    else return .inl (h.add (.wrap "array_type" [← given g.index]))
  | .round g :: _ =>
    drop 1
    let t ← given (if h.joint then g.jointType else g.type)
    return .inr (h.prefixes, Node.inner "parenthesized_type" [t])
  | .word w :: _ =>
    drop 1
    named place h w
  | _ => fail

end TypeHead

/-- A type, when some of it is read. -/
def typeFrom (place : TypePlace) (h : TypeHead) : Rule Node := do
  let (prefixes, core) ← loop (TypeHead.step place) h
  applyPrefixes { place with declares := false } prefixes core

/-- Whether a negated type stands here, possibly under pointers. -/
def startsNegation : List Item → Bool
  | .mark '~' _ :: _ => true
  | .mark '*' _ :: rest => startsNegation rest
  | .line :: rest => startsNegation rest
  | _ => false

/-- A node under a number of equal unary constructs. -/
def wrapNode (kind : String) : Nat → Node → Node
  | 0, n => n
  | k + 1, n => wrapNode kind k (Node.inner kind [n])

/-- A negated type where an expression can stand as well. Of two readings of the same weight the one
that gives no brackets to the negated type is meant, so that one comes first. -/
def jointNegation (place : TypePlace) : Rule Node := do
  let stars ← loop (fun stars => do
    match ← peekOn with
    | .mark '*' _ :: _ =>
      drop 1
      return .inl (stars + 1)
    | _ => return .inr stars) 0
  mark '~'
  let inner : Rule Node := do return negatedType (← typeFrom place {})
  let t ← inner <|> (do genericType place (← inner))
  return wrapNode "pointer_type" stars t

def type (place : TypePlace) : Rule Node := do
  if place.joint && startsNegation (← peekOn) then jointNegation place
  else typeFrom place ⟨[], place.joint⟩

def unionType (place : TypePlace) : Rule (List Node) := do
  let first ← type place
  loop (fun found => do
    match ← place.peek with
    | .mark '|' _ :: _ =>
      drop 1
      return .inl ((← type { place with joint := false }) :: found)
    | _ => return .inr found.reverse) [first]

/-! ## Type arguments and type parameters -/

def typeElement (place : TypePlace) : Rule Node := do
  return Node.inner "type_elem" (← unionType place)

/-- The type arguments between brackets. The first one may stand where an index can. -/
def typeArguments (joint : Bool) (items : List Item) : Option (Weighted Node) :=
  match commaParts items with
  | [] => none
  | first :: others => do
    let first ← (typeElement { joint }).whole first
    let others ← others.mapM (typeElement {}).whole
    let args := weighAll (first :: others)
    return ⟨Node.inner "type_arguments" args.value, typeArgumentsWeight + args.weight⟩

/-- A part of a list of type parameters: a name, or a name and its constraint. -/
def typeParameterPart : Rule (String × Option Node) := do
  let w ← word
  match ← peek with
  | [] => return (w, none)
  | _ => return (w, some (Node.inner "type_constraint" (← unionType {})))

/-- The declarations of type parameters, when `names` stand before, the last one first. Names alone
share the constraint that follows them. -/
def declareTypeParameters (names : List String) :
    List (String × Option Node) → Option (List Node)
  | [] => if names.isEmpty then some [] else none
  | (w, none) :: rest => declareTypeParameters (w :: names) rest
  | (w, some constraint) :: rest => do
    let others ← declareTypeParameters [] rest
    return Node.inner "type_parameter_declaration"
      ((w :: names).reverse.map (wordNode "identifier") ++ [constraint]) :: others

def typeParameters (items : List Item) : Option (Weighted Node) := do
  let parts ← commaList typeParameterPart items
  let declared ← declareTypeParameters [] parts.value
  return ⟨Node.inner "type_parameter_list" declared, parts.weight⟩

/-! ## Parameters -/

/-- The readings of one entry of a parameter list. -/
structure Parameter where
  /-- The entry is a name alone. -/
  name? : Option String
  /-- The entry is a name and a type. -/
  named? : Option (Weighted (String × Node))
  /-- The entry is a declaration by itself, without names that it could share. -/
  single? : Option (Weighted Node)

def unnamedParameter : Rule Node := do
  return Node.inner "parameter_declaration" [← type { declares := true }]

/-- A parameter that takes all further arguments. -/
def variadicParameter : Rule Node := do
  let names : List Node ← (do
    match ← peek with
    | .word w :: _ =>
      if isTypeKeyword w then fail
      else do
        drop 1
        return [wordNode "identifier" w]
    | _ => return [])
  match ← peek with
  | .mark '.' _ :: .mark '.' true :: .mark '.' true :: _ =>
    drop 3
    return Node.inner "variadic_parameter_declaration" (names ++ [← type {}])
  | _ => fail

def Parameter.read (items : List Item) : Parameter where
  name? := match items with
    | [.word w] => some w
    | _ => none
  named? := Rule.whole (do return (← word, ← type {})) items
  single? := (unnamedParameter <|> variadicParameter).whole items

/-- A declaration of parameters: names that share a type, or a declaration without such names. -/
inductive ParameterDeclaration where
  | shared (names : List String) (type : Node)
  | single (node : Node)

def ParameterDeclaration.node : ParameterDeclaration → Node
  | shared names t => Node.inner "parameter_declaration" (names.map (wordNode "identifier") ++ [t])
  | single n => n

/-- The heavier of two readings, and the first of two of the same weight. -/
def heavier {α : Type} (a b : Option (Weighted α)) : Option (Weighted α) :=
  match a, b with
  | some x, some y => if x.weight < y.weight then b else a
  | some _, none => a
  | none, _ => b

/-- The names and the type of a declaration whose first names stand before, and the declarations
after it. -/
structure SharedType where
  names : List String
  type : Node
  rest : List ParameterDeclaration

/-- The readings of the end of a parameter list. -/
structure ParameterTail where
  /-- A new declaration starts here. -/
  declared : Option (Weighted (List ParameterDeclaration)) := some ⟨[], 0⟩
  /-- Names of the declaration stand before. -/
  shared : Option (Weighted SharedType) := none

/-- The largest number of names that share a type. -/
def maxSharingNames : Nat := 9

/-- The readings of the end of a parameter list with one more entry before it. A declaration cannot
start with a word that starts a type, but such a word can be a further name of it. -/
def ParameterTail.cons (p : Parameter) (tail : ParameterTail) : ParameterTail :=
  let shared : Option (Weighted SharedType) := match p.name?, p.named? with
    | some w, _ => tail.shared.bind fun s =>
      if s.value.names.length < maxSharingNames then
        some ⟨{ s.value with names := w :: s.value.names }, s.weight⟩
      else none
    | none, some n => tail.declared.map fun rest =>
      ⟨⟨[n.value.1], n.value.2, rest.value⟩, n.weight + rest.weight⟩
    | none, none => none
  let named := shared.bind fun s =>
    match s.value.names with
    | w :: _ =>
      if isTypeKeyword w then none
      else some ⟨.shared s.value.names s.value.type :: s.value.rest, s.weight⟩
    | [] => none
  let single := match p.single?, tail.declared with
    | some d, some rest => some ⟨.single d.value :: rest.value, d.weight + rest.weight⟩
    | _, _ => none
  { declared := heavier named single, shared }

/-- The declarations of a parameter list. Names that stand alone before a name with a type share the
type; other names that stand alone are types. -/
def parameterDeclarations (items : List Item) : Option (Weighted (List Node)) :=
  (((commaParts items).map Parameter.read).foldr ParameterTail.cons {}).declared.map fun ps =>
    ⟨ps.value.map (·.node), ps.weight⟩

def parameterList (items : List Item) : Option (Weighted Node) :=
  (looseList parameterDeclarations items).map fun ps =>
    ⟨Node.inner "parameter_list" ps.value, ps.weight⟩

/-- The result of a declared function: a parameter list, one type, or nothing. -/
def declaredResult : Rule (List Node) := do
  match ← peek with
  | .round g :: _ =>
    drop 1
    return [← given g.parameters]
  | items =>
    if TypePlace.starts {} items then return [← type { lineEnds := true }] else return []

/-! ## Structs and interfaces -/

/-- Whether an item ends a statement, a field or an element. -/
def Item.isTerminator : Item → Bool
  | line => true
  | mark c _ => c == ';' || c == '\x00'
  | _ => false

/-- One more item of a list whose items end with their line, or the end of the list. -/
def lineStep {α : Type} (ends : List Item → Bool) (item : Bool → Rule α) (found : List α) :
    Rule (List α ⊕ List α) := do
  if ends (← peekOn) then return .inr found.reverse
  else
    let x ← item found.isEmpty
    match ← peek with
    | i :: _ =>
      if i.isTerminator then do
        drop 1
        if ends (← peekOn) then return .inr (x :: found).reverse
        else return .inl (x :: found)
      else if ends (← peekOn) then return .inr (x :: found).reverse
      else fail
    | [] => if ends [] then return .inr (x :: found).reverse else fail

/-- A list whose items end with their line, the last one possibly not. `ends` says whether the list
ends where an item could start; `item` reads an item and is told whether it is the first one. Of two
readings of the same weight the longer first item is meant only if nothing follows. -/
def lineList {α : Type} (ends : List Item → Bool) (item : Bool → Rule α) : Rule (List α) :=
  explore (fun r => r.value.length == 1) (lineStep ends item) []

/-- A list of which every item ends with its line. -/
def terminatedList {α : Type} (item : Rule α) : Rule (List α) :=
  explore (fun _ => false) (fun found => do
    match ← peekOn with
    | [] => return .inr found.reverse
    | _ =>
      let x ← item
      match ← peek with
      | i :: _ => if i.isTerminator then do drop 1; return .inl (x :: found) else fail
      | [] => fail) []

/-- An embedded type, where names of fields can stand as well or not. -/
def embeddedType (declares : Bool) : Rule Node := do
  match ← peekOn with
  | .mark '~' _ :: _ =>
    drop 1
    genericType {} (negatedType (← type {}))
  | _ =>
    let (base, _) ← namedType { lineEnds := true } (← word)
    let declares := declares && base.kind == "type_identifier"
    withArguments { lineEnds := true, declares } base 0

/-- The names of fields after the first one, each after a comma. -/
def moreNames (place : TypePlace) : Rule (List String) :=
  loop (fun found => do
    match ← place.peek with
    | .mark ',' _ :: _ =>
      drop 1
      return .inl ((← word) :: found)
    | _ => return .inr found.reverse) []

def namedFields : Rule (List Node) := do
  let first ← word
  let names ← (do
    match ← peek with
    | .mark ',' _ :: _ => moreNames {}
    | .line :: _ => fail
    | _ => return [])
  let t ← type { lineEnds := true }
  return (first :: names).map (wordNode "field_identifier") ++ [t]

/-- A line of a struct. -/
def field : Rule Node := do
  let body ← (do
    match ← peekOn with
    | .mark '*' _ :: _ =>
      drop 1
      return [← embeddedType false]
    | _ => (do return [← embeddedType true]) <|> namedFields)
  match ← peek with
  | .literal tag :: _ =>
    if tag.kind == "interpreted_string_literal" || tag.kind == "raw_string_literal" then do
      drop 1
      return Node.inner "field_declaration" (body ++ [tag])
    else fail
  | _ => return Node.inner "field_declaration" body

def fieldList (items : List Item) : Option (Weighted Node) :=
  ((lineList List.isEmpty fun _ => field).whole items).map fun fields =>
    ⟨Node.inner "field_declaration_list" fields.value, fields.weight⟩

def methodElement : Rule Node := do
  let w ← word
  match ← peek with
  | .round g :: _ =>
    if isTypeKeyword w then fail
    else do
      drop 1
      let parameters ← given g.parameters
      let result ← declaredResult
      return Node.inner "method_elem" (wordNode "field_identifier" w :: parameters :: result)
  | _ => fail

def interfaceElements (items : List Item) : Option (Weighted (List Node)) :=
  (lineList List.isEmpty fun _ => methodElement <|> typeElement { lineEnds := true }).whole items

end GoAssets.Go
