import GoAssets.Go.Lexeme
import GoAssets.Go.Statement

/-!
# Brackets

The readings of what stands between a pair of brackets, and the items of a text: its lexemes with
every pair of brackets closed and read. A text whose brackets do not match has no items.
-/

namespace GoAssets.Go

open Rule

/-! ## Parentheses -/

def importSpec : Rule Node := do
  let name ← (do
    match ← peekOn with
    | .mark '.' _ :: _ =>
      drop 1
      return [Node.inner "dot" []]
    | .word w :: _ =>
      drop 1
      if w == "_" then return [wordNode "blank_identifier" w]
      else return [wordNode "package_identifier" w]
    | _ => return [])
  match ← peekOn with
  | .literal path :: _ =>
    if path.kind == "interpreted_string_literal" || path.kind == "raw_string_literal" then do
      drop 1
      return Node.inner "import_spec" (name ++ [path])
    else fail
  | _ => fail

def readRound (items : List Item) : Round :=
  let inside := items.filter (!·.isLine)
  { arguments := argumentList inside
    builtinArguments := builtinArgumentList inside
    operand := conversionOperand inside
    expression := enclosedExpression.whole inside
    type := (type {}).whole inside
    jointType := (type { joint := true }).whole inside
    asksType := match inside with
      | [.word w] => w == "type"
      | _ => false
    parameters := parameterList inside
    constants := Rule.whole (do return (← terminatedList constSpec).map (·.node)) items
    vars := Rule.whole (do return (← terminatedList varSpec).map (·.node)) items
    types := (terminatedList (typeSpec true)).whole items
    imports := (lineList List.isEmpty fun _ => importSpec).whole items }

/-! ## Square brackets -/

/-- Whether the first name can be that of a type parameter where an expression can stand as well. -/
def startsJointTypeParameters : List Item → Bool
  | .word w :: _ => !(isTypeKeyword w || isPredeclared w)
  | _ => false

/-- Whether the items can be the length of an array where type parameters can stand as well. An arrow
after the first name starts a channel type. -/
def startsJointLength : List Item → Bool
  | .word w :: .mark '<' _ :: .mark '-' true :: _ => isTypeKeyword w || isPredeclared w
  | _ => true

def readSquare (items : List Item) : Square :=
  let inside := items.filter (!·.isLine)
  let index := enclosedExpression.whole inside
  let typeParameters := typeParameters inside
  { isEmpty := inside.isEmpty
    isImplicit := match inside with
      | [.mark '.' _, .mark '.' true, .mark '.' true] => true
      | _ => false
    index
    bounds := sliceBounds.whole inside
    key := (type {}).whole inside
    typeArguments := typeArguments false inside
    calleeArguments := typeArguments true inside
    instances := commaList (type {}) inside
    typeParameters
    jointTypeParameters := if startsJointTypeParameters inside then typeParameters else none
    jointLength := if startsJointLength inside then index else none }

/-! ## Braces -/

def readCurly (items : List Item) : Curly where
  block := blockNode items
  literal := literalValue (items.filter (!·.isLine))
  fields := fieldList items
  elements := interfaceElements items
  valueClauses := (clauses "expression_case" valueClauseHead).whole items
  typeClauses := (clauses "type_case" typeClauseHead).whole items
  communicationClauses := (clauses "communication_case" communicationClauseHead).whole items

/-! ## Items -/

def Item.ofGroup (b : Bracket) (items : List Item) : Item :=
  match b with
  | .round => .round (readRound items)
  | .square => .square (readSquare items)
  | .curly => .curly (readCurly items)

/-- A bracket that is open, with the items before it, the last one first. -/
structure OpenBracket where
  bracket : Bracket
  before : List Item

/-- The items of lexemes, when `found` stands before them in the innermost open bracket, the last one
first. -/
def gather (found : List Item) (waiting : List OpenBracket) : List Lexeme → Option (List Item)
  | [] => if waiting.isEmpty then some found.reverse else none
  | .line :: rest => gather (.line :: found) waiting rest
  | .word w :: rest => gather (.word w :: found) waiting rest
  | .literal n :: rest => gather (.literal n :: found) waiting rest
  | .mark c glued :: rest => gather (.mark c glued :: found) waiting rest
  | .fileEnd :: rest => gather (.fileEnd :: found) waiting rest
  | .opening b :: rest => gather [] (⟨b, found⟩ :: waiting) rest
  | .closing b :: rest =>
    match waiting with
    | [] => none
    | o :: waiting =>
      if o.bracket = b then gather (Item.ofGroup b found.reverse :: o.before) waiting rest
      else none

/-- The items of a text, if its brackets match. -/
def itemsOf (cs : List Char) : Option (List Item) := gather [] [] (lexemes cs)

end GoAssets.Go
