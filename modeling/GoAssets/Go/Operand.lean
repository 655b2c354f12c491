import GoAssets.Go.Type

/-!
# Operands

An operand is a primary expression with selectors, brackets, calls and literal braces after it. The
same text can be read as an expression and as a type: `a[b]` is an element of `a`, an instance of the
generic type `a`, or a function with a type argument that waits for its call. The grammar follows all
these readings, until what comes next decides.

Whether a `*` before an operand belongs to an expression or to a pointer type is decided late as
well, so an operand knows how many of them wait.
-/

namespace GoAssets.Go

open Rule

/-! ## Places -/

/-- What can follow at the place of an expression. -/
structure Place where
  /-- The end of a line ends the expression. -/
  lineEnds : Bool := false
  /-- A brace can open a block. -/
  opensBlock : Bool := false
  /-- An arrow after the expression sends a value. -/
  sends : Bool := false
  /-- A double sign after the expression makes an increment or decrement statement. -/
  steps : Bool := false
  /-- The expression can be the subject of a type switch. -/
  asksType : Bool := false
deriving DecidableEq, Repr

namespace Place

/-- Between brackets, or before something that has to follow. -/
def enclosed : Place := {}

/-- A value at the end of a statement. -/
def value : Place := { lineEnds := true }

/-- The start of a statement. -/
def statement : Place := { lineEnds := true, sends := true, steps := true }

/-- The end of a header, before a block. -/
def headerEnd : Place := { opensBlock := true }

/-- The start of a header. -/
def header : Place := { opensBlock := true, sends := true, steps := true }

/-- The items that follow at a place where the expression could end. -/
def peek (p : Place) : Rule (List Item) := if p.lineEnds then Rule.peek else peekOn

end Place

/-! ## Weights -/

def conversionWeight : Int := -1

def instantiationWeight : Int := -1

/-! ## Operands in the making -/

/-- The ways to read an operand that is not complete yet. -/
inductive Form where
  | value (node : Node)
  /-- A type, of which an expression can be made. -/
  | type (node : Node)
  /-- A function with type arguments, which waits for its call. -/
  | callee (function typeArguments : Node)

/-- An operand in the making. -/
structure Operand where
  /-- The number of `*` before the operand that wait. -/
  stars : Nat
  form : Form

def isBareType (t : Node) : Bool := t.kind == "type_identifier"

def bareWeight (t : Node) : Int := if isBareType t then bareTypeWeight else 0

/-- Whether a type can be that of a composite literal. -/
def startsLiteral (t : Node) : Bool :=
  ["map_type", "slice_type", "array_type", "struct_type", "type_identifier", "generic_type",
    "qualified_type"].contains t.kind

/-- Whether an expression is one of the functions whose first argument is a type. -/
def isBuiltin (n : Node) : Bool :=
  n.kind == "identifier" && (n.text == "new" || n.text == "make")

def callNode (function : Node) (others : List Node) (arguments : Node) : Node :=
  Node.inner "call_expression"
    (function.withRole .function :: others ++ [arguments.withRole .arguments])

namespace Operand

/-- An expression, under the `*` that wait. -/
def value (stars : Nat) (n : Node) : Operand := ⟨stars, .value n⟩

/-- A type, under the `*` that wait. -/
def type (stars : Nat) (n : Node) : Operand := ⟨stars, .type n⟩

/-- The type of an operand, which takes the `*` that wait. -/
def pointer (stars : Nat) (t : Node) : Node := wrapNode "pointer_type" stars t

/-! ### Expressions -/

/-- A selector or a type assertion, after its dot. -/
def dotted (stars : Nat) (n : Node) : Rule Operand := do
  match ← peekOn with
  | .word w :: _ =>
    drop 1
    return value stars (Node.inner "selector_expression"
      [n.withRole .operand, (wordNode "field_identifier" w).withRole .field])
  | .round g :: _ =>
    drop 1
    return value stars (Node.inner "type_assertion_expression" [n, ← given g.type])
  | _ => fail

/-- An index, the bounds of a slice, or type arguments after an expression. -/
def bracketed (stars : Nat) (n : Node) (g : Square) : Rule Operand :=
  (do return value stars (Node.inner "index_expression" [n, ← given g.index]))
  <|> (do return value stars (Node.inner "slice_expression" (n :: (← given g.bounds))))
  <|> (do return ⟨stars, .callee n (← given g.calleeArguments)⟩)

/-- Whether the subject of a type switch ends here. -/
def asksType : List Item → Bool
  | .mark '.' _ :: .round g :: _ => g.asksType
  | .mark '.' _ :: .line :: .round g :: _ => g.asksType
  | _ => false

/-- What follows an expression: a selector, a type assertion, brackets or arguments. -/
def afterValue (place : Place) (stars : Nat) (n : Node) : Rule (Operand ⊕ Node) := do
  let done : Rule (Operand ⊕ Node) := return .inr (wrapNode "unary_expression" stars n)
  let items ← place.peek
  match items with
  | .mark '.' _ :: .mark '.' true :: _ => done
  | .mark '.' _ :: _ =>
    if place.asksType && stars == 0 && asksType items then done
    else
      drop 1
      return .inl (← dotted stars n)
  | .square g :: _ =>
    drop 1
    return .inl (← bracketed stars n g)
  | .round g :: _ =>
    drop 1
    let args ← given (if isBuiltin n then g.builtinArguments else g.arguments)
    return .inl (value stars (callNode n [] args))
  | _ => done

/-! ### Types -/

/-- The items after a type. It goes on with the next line, unless it is a bare name and the line
ends the expression. -/
def typePeek (place : Place) (t : Node) : Rule (List Item) :=
  if place.lineEnds && isBareType t then Rule.peek else peekOn

/-- Type arguments after a type, or the types that instantiate it. -/
def instantiated (stars : Nat) (t : Node) (g : Square) : Rule Operand :=
  (do
    if isBareType t || t.kind == "qualified_type" then
      let args ← given g.typeArguments
      weigh genericTypeWeight
      return type stars (Node.inner "generic_type" [t, args])
    else fail)
  <|> (do
    let types ← given g.instances
    weigh (bareWeight t + instantiationWeight)
    return value 0 (Node.inner "type_instantiation_expression" (pointer stars t :: types)))

/-- What follows a type: the name of a type in a package, brackets, the operand of a conversion or
literal braces. A bare name before a brace is no literal where a block can follow. -/
def afterType (place : Place) (stars : Nat) (t : Node) : Rule (Operand ⊕ Node) := do
  match ← typePeek place t with
  | .mark '.' _ :: _ =>
    if isBareType t then do
      drop 1
      let name ← word
      return .inl (type stars (Node.inner "qualified_type"
        [Node.token "package_identifier" t.text.toList, wordNode "type_identifier" name]))
    else fail
  | .square g :: _ =>
    drop 1
    return .inl (← instantiated stars t g)
  | .round g :: _ =>
    drop 1
    let operand ← given g.operand
    weigh (bareWeight t + conversionWeight)
    return .inl (value 0 (Node.inner "type_conversion_expression" [pointer stars t, operand]))
  | .curly g :: _ =>
    if startsLiteral t && !(place.opensBlock && isBareType t) then do
      drop 1
      let body ← given g.literal
      return .inl (value stars (Node.inner "composite_literal" [t, body]))
    else fail
  | _ => fail

/-! ### All forms -/

/-- One more piece of an operand, or its end. -/
def step (place : Place) (o : Operand) : Rule (Operand ⊕ Node) :=
  match o.form with
  | .value n => afterValue place o.stars n
  | .type t => afterType place o.stars t
  | .callee f typeArguments => do
    let args ← given (← round).arguments
    return .inl (value o.stars (callNode f [typeArguments] args))

end Operand

/-! ## Primary expressions -/

/-- The place of a type that starts an expression. -/
def TypePlace.operand : TypePlace := { joint := true }

/-- A type that starts here and cannot be an expression. -/
def primaryType (stars : Nat) : Rule Operand := do
  return .type stars (← type .operand)

/-- The literal of an array whose length it gives, after the brackets. -/
def implicitArray (stars : Nat) : Rule Operand := do
  let t := Node.inner "implicit_length_array_type" [← type {}]
  let body ← given (← curly).literal
  return .value stars (Node.inner "composite_literal" [t, body])

def function (stars : Nat) : Rule Operand := do
  let parameters ← given (← round).parameters
  let items ← peekOn
  let results ← (match items with
    | .round g :: _ => do
      drop 1
      return [← given g.parameters]
    | _ =>
      if TypePlace.starts {} items then do return [← type {}] else return [])
  match ← peekOn with
  | .curly g :: _ =>
    drop 1
    let body ← given g.block
    return .value stars (Node.inner "func_literal" (parameters :: results ++ [body]))
  | _ => return .type stars (Node.inner "function_type" (parameters :: results))

/-- What can stand before selectors, brackets, calls and literal braces. -/
def primary (stars : Nat) : Rule Operand := do
  match ← peekOn with
  | .literal n :: _ =>
    drop 1
    return .value stars n
  | .round g :: _ =>
    drop 1
    (do return .type stars (Node.inner "parenthesized_type" [← given g.jointType]))
      <|> (do return .value stars (Node.inner "parenthesized_expression" [← given g.expression]))
  | .square g :: _ =>
    if g.isImplicit then do
      drop 1
      implicitArray stars
    else primaryType stars
  | .mark '~' _ :: _ | .mark '<' _ :: _ => primaryType stars
  | .word w :: _ =>
    if w == "func" then do
      drop 1
      function stars
    else if isTypeKeyword w then primaryType stars
    else do
      drop 1
      if w == "new" || w == "make" then return .value stars (wordNode "identifier" w)
      else if isPredeclared w then return .value stars (wordNode w w)
      else
        (return .type stars (wordNode "type_identifier" w))
          <|> (return .value stars (wordNode "identifier" w))
  | _ => fail

/-- Whether a conversion ends with the file and no blank stands between. -/
def endsWithFile (r : Reading Node) : Bool :=
  match r.rest.items with
  | [.fileEnd] => r.value.kind == "type_conversion_expression"
  | _ => false

/-- An operand after a number of `*`. Of a conversion and a call of the same weight the conversion is
meant, except at the very end of a file. -/
def operand (place : Place) (stars : Nat) : Rule Node :=
  settle (fun r => stars == 0 && endsWithFile r) (do loop (Operand.step place) (← primary stars))

end GoAssets.Go
