import GoAssets.Go.Operand

/-!
# Expressions

The grammar of expressions: operands with unary operators before them and binary operators between
them. What stands between brackets around and after expressions is read here too: arguments, indices,
the bounds of slices and the elements of literals.
-/

namespace GoAssets.Go

open Rule

/-! ## Operators -/

/-- The marks that stand here without anything between them, at most three. -/
def touchingMarks : List Item → List Char
  | .mark a _ :: .mark b true :: .mark c true :: _ => [a, b, c]
  | .mark a _ :: .mark b true :: _ => [a, b]
  | .mark a _ :: _ => [a]
  | _ => []

/-- A binary operator: how tightly it binds, and how many marks it has. -/
structure BinaryOperator where
  precedence : Nat
  marks : Nat
deriving DecidableEq, Repr

/-- The binary operator at the front of touching marks. Marks that start an assignment, or a
statement that the place allows, are none. -/
def binaryOperator? (place : Place) : List Char → Option BinaryOperator
  | '|' :: '|' :: _ => some ⟨1, 2⟩
  | '&' :: '&' :: _ => some ⟨2, 2⟩
  | '=' :: '=' :: _ => some ⟨3, 2⟩
  | '!' :: '=' :: _ => some ⟨3, 2⟩
  | '<' :: '<' :: '=' :: _ => none
  | '<' :: '<' :: _ => some ⟨5, 2⟩
  | '<' :: '=' :: _ => some ⟨3, 2⟩
  | '<' :: '-' :: _ => if place.sends then none else some ⟨3, 1⟩
  | '<' :: _ => some ⟨3, 1⟩
  | '>' :: '>' :: '=' :: _ => none
  | '>' :: '>' :: _ => some ⟨5, 2⟩
  | '>' :: '=' :: _ => some ⟨3, 2⟩
  | '>' :: _ => some ⟨3, 1⟩
  | '&' :: '^' :: '=' :: _ => none
  | '&' :: '^' :: _ => some ⟨5, 2⟩
  | '+' :: '+' :: _ => if place.steps then none else some ⟨4, 1⟩
  | '-' :: '-' :: _ => if place.steps then none else some ⟨4, 1⟩
  | _ :: '=' :: _ => none
  | c :: _ =>
    if c = '&' ∨ c = '*' ∨ c = '/' ∨ c = '%' then some ⟨5, 1⟩
    else if c = '+' ∨ c = '-' ∨ c = '|' ∨ c = '^' then some ⟨4, 1⟩
    else none
  | [] => none

def isUnaryOperator (c : Char) : Bool :=
  c == '+' || c == '-' || c == '!' || c == '^' || c == '*' || c == '&'

/-- Whether a channel type starts here, and not an expression that receives. -/
def startsChannelType (c : Cursor) : Bool :=
  match c.items with
  | .mark '<' _ :: .mark '-' true :: .word "chan" :: _
  | .mark '<' _ :: .mark '-' true :: .line :: .word "chan" :: _ => !(type .operand c).isEmpty
  | _ => false

/-! ## Unary operators -/

/-- The unary operators before an operand: the number of `*` directly before it, and the number of
all others. -/
structure Signs where
  stars : Nat := 0
  others : Nat := 0

/-- Read the unary operators before an operand. An arrow before a channel type belongs to the
type. -/
def signs : Rule Signs :=
  loop (fun (s : Signs) => do
    match ← peekOn with
    | .mark '<' _ :: .mark '-' true :: _ =>
      if ← (fun c => [⟨startsChannelType c, 0, c⟩]) then return .inr s
      else
        drop 2
        return .inl ⟨0, s.others + s.stars + 1⟩
    | .mark c _ :: _ =>
      if c = '*' then do
        drop 1
        return .inl ⟨s.stars + 1, s.others⟩
      else if isUnaryOperator c then do
        drop 1
        return .inl ⟨0, s.others + s.stars + 1⟩
      else return .inr s
    | _ => return .inr s) {}

/-- An operand of a binary operator. -/
def unary (place : Place) : Rule Node := do
  let s ← signs
  let place := { place with asksType := place.asksType && s.others == 0 }
  let n ← operand place s.stars
  return wrapNode "unary_expression" s.others n

/-! ## Binary operators -/

/-- A left operand that waits for its right one, with the precedence of the operator between. -/
structure Waiting where
  left : Node
  precedence : Nat

/-- Join the waiting left operands that bind at least as tightly as `precedence` with `current`.
Operators of one precedence group to the left. -/
def joinWaiting (precedence : Nat) (current : Node) : List Waiting → Node × List Waiting
  | [] => (current, [])
  | w :: rest =>
    if precedence ≤ w.precedence then
      joinWaiting precedence (Node.inner "binary_expression" [w.left, current]) rest
    else (current, w :: rest)

def expression (place : Place) : Rule Node := do
  let first ← unary place
  loop (fun ((current, waiting) : Node × List Waiting) => do
    match binaryOperator? place (touchingMarks (← place.peek)) with
    | none => return .inr (joinWaiting 0 current waiting).1
    | some op =>
      drop op.marks
      let right ← unary { place with asksType := false }
      let (left, waiting) := joinWaiting op.precedence current waiting
      return .inl (right, ⟨left, op.precedence⟩ :: waiting)) (first, [])

def expressions (place : Place) : Rule (List Node) := do
  let first ← expression place
  loop (fun found => do
    match ← place.peek with
    | .mark ',' _ :: _ =>
      drop 1
      return .inl ((← expression { place with asksType := false }) :: found)
    | _ => return .inr found.reverse) [first]

def enclosedExpression : Rule Node := expression .enclosed

/-! ## Arguments -/

/-- One argument of a call, which may be spread over several parameters. -/
def argument : Rule Node := do
  let e ← enclosedExpression
  match ← peek with
  | .mark '.' _ :: .mark '.' true :: .mark '.' true :: _ =>
    drop 3
    return Node.inner "variadic_argument" [e]
  | _ => return e

def argumentList (items : List Item) : Option (Weighted Node) :=
  (optionalList (commaList argument) items).map fun args =>
    ⟨Node.inner "argument_list" args.value, args.weight⟩

/-- The arguments of `new` and `make` between parentheses: the first is a type. -/
def builtinArgumentList (items : List Item) : Option (Weighted Node) :=
  let arguments : List Item → Option (Weighted (List Node)) := fun items =>
    match commaParts items with
    | [] => none
    | first :: others => do
      let t ← (type {}).whole first
      let es ← others.mapM enclosedExpression.whole
      return weighAll (t :: es)
  (optionalList arguments items).map fun args =>
    ⟨Node.inner "argument_list" args.value, args.weight⟩

def conversionOperand (items : List Item) : Option (Weighted Node) :=
  match commaParts items with
  | [part] => enclosedExpression.whole part
  | _ => none

/-! ## Indices -/

/-- A bound of a slice expression, which may be left out. -/
def bound : Rule (List Node) := do
  match ← peek with
  | [] | .mark ':' _ :: _ => return []
  | _ => return [← enclosedExpression]

/-- The bounds of a slice expression between brackets. A capacity follows only an end. -/
def sliceBounds : Rule (List Node) := do
  let start ← bound
  mark ':'
  let stop ← bound
  match ← peek with
  | .mark ':' _ :: _ =>
    if stop.isEmpty then fail
    else do
      drop 1
      return start ++ stop ++ [← enclosedExpression]
  | _ => return start ++ stop

/-! ## Composite literals -/

/-- An element of a composite literal: an expression, or the braces of a literal whose type is
left out. -/
def literalElement : Rule Node := do
  match ← peek with
  | .curly g :: _ =>
    drop 1
    return Node.inner "literal_element" [← given g.literal]
  | _ => return Node.inner "literal_element" [← enclosedExpression]

def keyedElement : Rule Node := do
  let key ← literalElement
  match ← peek with
  | .mark ':' _ :: _ =>
    drop 1
    return Node.inner "keyed_element" [key, ← literalElement]
  | _ => return key

def literalValue (items : List Item) : Option (Weighted Node) :=
  (looseList (commaList keyedElement) items).map fun elements =>
    ⟨Node.inner "literal_value" elements.value, elements.weight⟩

end GoAssets.Go
