import GoAssets.Go.Expression

/-!
# Statements

The grammar of statements, blocks and clauses. The header of an `if`, `for` or `switch` is read like a
simple statement of which it is not yet known what it will be; what follows decides. The rule of a
statement or declaration that starts with a keyword reads what comes after the keyword.
-/

namespace GoAssets.Go

open Rule

structure StatementNode where
  node : Node
  /-- The statement ends in a value, which the end of the file ends as well as the end of a line. -/
  endsInValue : Bool := false

/-! ## Simple statements -/

def expressionListNode (es : List Node) : Node := Node.inner "expression_list" es

/-- The expressions before an operator. After a comma an operator has to follow, so the end of a line
no longer ends anything. -/
def leftSide (place : Place) : Rule (List Node) := do
  let first ← expression place
  match ← place.peek with
  | .mark ',' _ :: _ =>
    drop 1
    let others ← expressions .enclosed
    skipLine
    return first :: others
  | _ => return [first]

/-- The operator of an assignment at the front of touching marks: whether it declares, and how many
marks it has. -/
def assignmentOperator? : List Char → Option (Bool × Nat)
  | ':' :: '=' :: _ => some (true, 2)
  | '=' :: '=' :: _ => none
  | '=' :: _ => some (false, 1)
  | '&' :: '^' :: '=' :: _ => some (false, 3)
  | '<' :: '<' :: '=' :: _ => some (false, 3)
  | '>' :: '>' :: '=' :: _ => some (false, 3)
  | c :: '=' :: _ => if "*/%&+-|^".toList.contains c then some (false, 2) else none
  | _ => none

def assignmentNode (declares : Bool) (left right : List Node) : Node :=
  Node.inner (if declares then "short_var_declaration" else "assignment_statement")
    [(expressionListNode left).withRole .left, (expressionListNode right).withRole .right]

/-- The rest of a simple statement after its left side. `stop` is the place of its end. -/
def simpleTail (start stop : Place) (left : List Node) : Rule StatementNode := do
  let marks := touchingMarks (← start.peek)
  match assignmentOperator? marks with
  | some (declares, n) =>
    drop n
    let right ← expressions stop
    return ⟨assignmentNode declares left right, true⟩
  | none =>
    match left, marks with
    | [e], '<' :: '-' :: _ =>
      drop 2
      let value ← expression stop
      return ⟨Node.inner "send_statement" [e, value], true⟩
    | [e], '+' :: '+' :: _ =>
      drop 2
      return { node := Node.inner "inc_statement" [e] }
    | [e], '-' :: '-' :: _ =>
      drop 2
      return { node := Node.inner "dec_statement" [e] }
    | [e], _ => return { node := Node.inner "expression_statement" [e] }
    | _, _ => fail

/-- A simple statement that starts at one place and ends at another. -/
def simpleStatement (start stop : Place) : Rule StatementNode := do
  simpleTail start stop (← leftSide start)

/-- The expression of an expression statement. -/
def asCondition (s : StatementNode) : Rule Node :=
  match s.node.kind, s.node.children with
  | "expression_statement", [e] => return e
  | _, _ => fail

/-! ## Declarations -/

def declaredValues : Rule Node := do
  return expressionListNode (← expressions .value)

def declaredNames (place : TypePlace) : Rule (List Node) := do
  let first ← word
  let others ← moreNames place
  return (first :: others).map (wordNode "identifier")

def constSpec : Rule StatementNode := do
  let names ← declaredNames { lineEnds := true }
  match ← peek with
  | .mark '=' _ :: _ =>
    drop 1
    return ⟨Node.inner "const_spec" (names ++ [← declaredValues]), true⟩
  | items =>
    if TypePlace.starts { lineEnds := true } items then
      let t ← type {}
      mark '='
      return ⟨Node.inner "const_spec" (names ++ [t, ← declaredValues]), true⟩
    else return { node := Node.inner "const_spec" names }

def varSpec : Rule StatementNode := do
  let names ← declaredNames {}
  match ← peekOn with
  | .mark '=' _ :: _ =>
    drop 1
    return ⟨Node.inner "var_spec" (names ++ [← declaredValues]), true⟩
  | _ =>
    let t ← type { lineEnds := true }
    match ← peek with
    | .mark '=' _ :: _ =>
      drop 1
      return ⟨Node.inner "var_spec" (names ++ [t, ← declaredValues]), true⟩
    | _ => return { node := Node.inner "var_spec" (names ++ [t]) }

def parametricType (name : Node) (g : Square) : Rule Node := do
  let parameters ← given g.jointTypeParameters
  let t ← type { lineEnds := true }
  return Node.inner "type_spec" [name, parameters, t]

def declaredArray (name : Node) (g : Square) : Rule Node := do
  let length ← given g.jointLength
  let t ← typeFrom { lineEnds := true } ⟨[.wrap "array_type" [length]], false⟩
  return Node.inner "type_spec" [name, t]

/-- The declaration of a type. Brackets after the name hold type parameters or the length of an
array; of two readings of the same weight the length is meant in a group of declarations, and the
type parameters in a declaration by itself. -/
def typeSpec (inGroup : Bool) : Rule Node := do
  let name := wordNode "type_identifier" (← word)
  match ← peekOn with
  | .mark '=' _ :: _ =>
    drop 1
    return Node.inner "type_alias" [name, ← type { lineEnds := true }]
  | .square g :: _ =>
    if g.isEmpty then return Node.inner "type_spec" [name, ← type { lineEnds := true }]
    else
      drop 1
      settle (fun _ => false) (if inGroup then declaredArray name g <|> parametricType name g
        else parametricType name g <|> declaredArray name g)
  | _ => return Node.inner "type_spec" [name, ← type { lineEnds := true }]

def declaration (w : String) : Rule StatementNode := do
  match w, ← peekOn with
  | "const", .round g :: _ =>
    drop 1
    return { node := Node.inner "const_declaration" (← given g.constants) }
  | "const", _ =>
    let spec ← constSpec
    return { spec with node := Node.inner "const_declaration" [spec.node] }
  | "var", .round g :: _ =>
    drop 1
    let specs ← given g.vars
    return { node := Node.inner "var_declaration" [Node.inner "var_spec_list" specs] }
  | "var", _ =>
    let spec ← varSpec
    return { spec with node := Node.inner "var_declaration" [spec.node] }
  | _, .round g :: _ =>
    drop 1
    return { node := Node.inner "type_declaration" (← given g.types) }
  | _, _ => return { node := Node.inner "type_declaration" [← typeSpec false] }

/-! ## Branching -/

def block : Rule Node := do given (← curly).block

def ifHeader : Rule (List Node) := do
  let first ← simpleStatement .header .enclosed
  match ← peekOn with
  | .mark ';' _ :: _ =>
    drop 1
    return [first.node, ← expression .headerEnd]
  | _ => return [← asCondition first]

/-- The node of an `if` statement whose last branch is read, inside the ones before it, the
innermost first. -/
def nestBranches (last : List Node) : List (List Node) → Node
  | [] => Node.inner "if_statement" last
  | outer :: rest => nestBranches (outer ++ [Node.inner "if_statement" last]) rest

def ifStatement : Rule Node :=
  loop (fun before => do
    let header ← ifHeader
    let branch := header ++ [← block]
    match ← peek with
    | .word "else" :: _ =>
      drop 1
      match ← peekOn with
      | .word "if" :: _ =>
        drop 1
        return .inl (branch :: before)
      | _ => return .inr (nestBranches (branch ++ [← block]) before)
    | _ => return .inr (nestBranches branch before)) []

/-- The condition and the update of a `for` clause, after the first semicolon. -/
def forClauseTail (init : List Node) : Rule Node := do
  let condition ← (do
    match ← peekOn with
    | .mark ';' _ :: _ => return []
    | _ => return [← expression .enclosed])
  mark ';'
  let update ← (do
    match ← peekOn with
    | .curly _ :: _ => return []
    | _ => return [(← simpleStatement .header .headerEnd).node])
  return Node.inner "for_clause" (init ++ condition ++ update)

/-- What a loop ranges over, after the word `range`. -/
def rangeClause (left : List Node) : Rule Node := do
  return Node.inner "range_clause" (left ++ [← expression .headerEnd])

/-- The number of marks of an operator that starts a range clause with the word after it. -/
def rangeOperator? (items : List Item) : Option Nat :=
  match items with
  | .mark ':' _ :: .mark '=' true :: .word "range" :: _ => some 2
  | .mark ':' _ :: .mark '=' true :: .line :: .word "range" :: _ => some 2
  | .mark '=' _ :: .word "range" :: _ => some 1
  | .mark '=' _ :: .line :: .word "range" :: _ => some 1
  | _ => none

def forHeader : Rule (List Node) := do
  match ← peekOn with
  | .curly _ :: _ => return []
  | .mark ';' _ :: _ =>
    drop 1
    return [← forClauseTail []]
  | .word "range" :: _ =>
    drop 1
    return [← rangeClause []]
  | _ =>
    let left ← leftSide .header
    match rangeOperator? (← peekOn) with
    | some n =>
      drop n
      let _ ← word
      return [← rangeClause [expressionListNode left]]
    | none =>
      let first ← simpleTail .header .enclosed left
      match ← peekOn with
      | .mark ';' _ :: _ =>
        drop 1
        return [← forClauseTail [first.node]]
      | _ => return [← asCondition first]

def forStatement : Rule Node := do
  let header ← forHeader
  return Node.inner "for_statement" (header ++ [← block])

/-! ## Switches -/

/-- The header of a switch, and whether it switches on a type. -/
structure SwitchHeader where
  isType : Bool
  nodes : List Node

/-- Take the question for a type that ends the subject of a type switch. -/
def typeQuestion : Rule Unit := do
  if Operand.asksType (← peekOn) then
    mark '.'
    let _ ← round
  else fail

/-- The subject of a type switch under another name, after the operator. -/
def namedSubject (init left : List Node) : Rule SwitchHeader := do
  let e ← expression { asksType := true }
  typeQuestion
  return ⟨true, init ++ [expressionListNode left, e]⟩

/-- The subject of a switch after its initializer: nothing, a value, or the type of a value, under
another name or not. -/
def switchSubject (init : List Node) : Rule SwitchHeader := do
  match ← peekOn with
  | .curly _ :: _ => return ⟨false, init⟩
  | _ =>
    let left ← leftSide { Place.headerEnd with asksType := true }
    let items ← peekOn
    match left, touchingMarks items with
    | _, ':' :: '=' :: _ =>
      drop 2
      namedSubject init left
    | [e], _ =>
      if Operand.asksType items then do
        typeQuestion
        return ⟨true, init ++ [e]⟩
      else return ⟨false, init ++ [e]⟩
    | _, _ => fail

def switchHeader : Rule SwitchHeader := do
  match ← peekOn with
  | .curly _ :: _ => return ⟨false, []⟩
  | _ =>
    let left ← leftSide { Place.header with asksType := true }
    let items ← peekOn
    match left, Operand.asksType items with
    | [e], true =>
      typeQuestion
      return ⟨true, [e]⟩
    | _, _ =>
      let simple (stop : Place) : Rule SwitchHeader := do
        let first ← simpleTail .header stop left
        match ← peekOn with
        | .mark ';' _ :: _ =>
          drop 1
          switchSubject [first.node]
        | _ => return ⟨false, [← asCondition first]⟩
      match touchingMarks items with
      | ':' :: '=' :: _ => simple { asksType := true } <|> (do drop 2; namedSubject [] left)
      | _ => simple .enclosed

def communication : Rule Node := do
  let left ← leftSide { sends := true }
  let items ← peekOn
  let receive (marks : Nat) : Rule Node := do
    drop marks
    return Node.inner "receive_statement" [expressionListNode left, ← expression .enclosed]
  match left, touchingMarks items with
  | [e], '<' :: '-' :: _ =>
    drop 2
    return Node.inner "send_statement" [e, ← expression .enclosed]
  | _, ':' :: '=' :: _ => receive 2
  | _, '=' :: _ => receive 1
  | [e], _ => return Node.inner "receive_statement" [e]
  | _, _ => fail

def switchStatement : Rule Node := do
  let header ← switchHeader
  let g ← curly
  if header.isType then
    return Node.inner "type_switch_statement" (header.nodes ++ (← given g.typeClauses))
  else
    return Node.inner "expression_switch_statement" (header.nodes ++ (← given g.valueClauses))

def selectStatement : Rule Node := do
  return Node.inner "select_statement" (← given (← curly).communicationClauses)

/-! ## Statements -/

def isStatementKeyword (w : String) : Bool :=
  ["const", "var", "type", "return", "go", "defer", "if", "for", "switch", "select", "fallthrough",
    "break", "continue", "goto"].contains w

/-- Whether a label can stand here, and not a keyword. -/
def isLabel (w : String) : Bool :=
  !(isTypeKeyword w || isPredeclared w || isStatementKeyword w)

/-- A jump with an optional label, after its keyword. -/
def jump (kind : String) : Rule Node := do
  match ← peek with
  | .word w :: _ =>
    if isClauseKeyword w then return Node.inner kind []
    else
      drop 1
      return Node.inner kind [wordNode "label_name" w]
  | _ => return Node.inner kind []

def returnStatement : Rule StatementNode := do
  let nothing : StatementNode := { node := Node.inner "return_statement" [] }
  match ← peek with
  | [] => return nothing
  | .word w :: _ =>
    if isClauseKeyword w then return nothing
    else
      let es ← expressions .value
      return ⟨Node.inner "return_statement" [expressionListNode es], true⟩
  | i :: _ =>
    if i.isTerminator then return nothing
    else
      let es ← expressions .value
      return ⟨Node.inner "return_statement" [expressionListNode es], true⟩

def keywordStatement (w : String) : Rule StatementNode :=
  match w with
  | "return" => returnStatement
  | "go" => do return ⟨Node.inner "go_statement" [← expression .value], true⟩
  | "defer" => do return ⟨Node.inner "defer_statement" [← expression .value], true⟩
  | "if" => do return { node := ← ifStatement }
  | "for" => do return { node := ← forStatement }
  | "switch" => do return { node := ← switchStatement }
  | "select" => do return { node := ← selectStatement }
  | "fallthrough" => return { node := Node.inner "fallthrough_statement" [] }
  | "break" => do return { node := ← jump "break_statement" }
  | "continue" => do return { node := ← jump "continue_statement" }
  | "goto" => do
    return { node := Node.inner "goto_statement" [wordNode "label_name" (← word)] }
  | _ => declaration w

/-- A statement without a label. `inClauses` says whether the words that start clauses are
keywords here. -/
def plainStatement (inClauses : Bool) : Rule StatementNode := do
  match ← peekOn with
  | .curly _ :: _ => return { node := ← block }
  | .mark ';' _ :: _ =>
    drop 1
    return { node := Node.inner "empty_statement" [] }
  | .word w :: _ =>
    if inClauses && isClauseKeyword w then fail
    else if isStatementKeyword w then do
      drop 1
      keywordStatement w
    else simpleStatement .statement .value
  | _ => simpleStatement .statement .value

/-- The label and its colon that start here. -/
def label? (inClauses : Bool) : List Item → Option Node
  | .word _ :: .mark ':' _ :: .mark '=' true :: _ => none
  | .word w :: .mark ':' _ :: _ =>
    if isLabel w && !(inClauses && isClauseKeyword w) then some (wordNode "label_name" w) else none
  | _ => none

/-- A statement under labels, the innermost first. -/
def labeled (labels : List Node) (s : StatementNode) : StatementNode :=
  { s with node := labels.foldl (fun n l => Node.inner "labeled_statement" [l, n]) s.node }

/-- A statement with the labels before it. The words that start clauses are keywords after the first
label if `afterLabel` says so. -/
def statement (inClauses afterLabel : Bool) : Rule StatementNode :=
  loop (fun (labels : List Node) => do
    let reserved := match labels with
      | [] => inClauses
      | [_] => afterLabel
      | _ => false
    match label? reserved (← peekOn) with
    | some l =>
      drop 2
      return .inl (l :: labels)
    | none => return .inr (labeled labels (← plainStatement reserved))) []

/-! ## Blocks and clauses -/

/-- A statement of a list, or a label alone at its end. The first statement of a block may start
with a word that starts clauses elsewhere. -/
def listStatement (ends : List Item → Bool) (inClauses : Bool) : Rule Node := do
  let lone : Rule Node := do
    match label? inClauses (← peekOn) with
    | some l =>
      drop 2
      if ends (← peekOn) then return Node.inner "labeled_statement" [l] else fail
    | none => fail
  lone <|> (do return (← statement inClauses true).node)

def blockNode (items : List Item) : Option (Weighted Node) :=
  ((lineList List.isEmpty fun first => listStatement List.isEmpty (!first)).whole items).map
    fun ns => ⟨Node.inner "block" ns.value, ns.weight⟩

def endsClause : List Item → Bool
  | [] => true
  | .word w :: _ => isClauseKeyword w
  | _ => false

def clauseBody : Rule (List Node) :=
  lineList endsClause fun _ => listStatement endsClause true

/-- The clauses of a switch or select between braces. `head` reads what stands between `case` and
the colon, and `kind` is the name of such a clause. -/
def clauses (kind : String) (head : Rule (List Node)) : Rule (List Node) :=
  explore (fun _ => false) (fun found => do
    match ← peekOn with
    | [] => return .inr found.reverse
    | .word "case" :: _ =>
      drop 1
      let parts ← head
      mark ':'
      let body ← clauseBody
      return .inl (Node.inner kind (parts ++ body) :: found)
    | .word "default" :: _ =>
      drop 1
      mark ':'
      let body ← clauseBody
      return .inl (Node.inner "default_case" body :: found)
    | _ => fail) []

def valueClauseHead : Rule (List Node) := do
  return [expressionListNode (← expressions .enclosed)]

def typeClauseHead : Rule (List Node) := do
  let first ← type {}
  loop (fun found => do
    match ← peekOn with
    | .mark ',' _ :: _ =>
      drop 1
      return .inl ((← type {}) :: found)
    | _ => return .inr found.reverse) [first]

def communicationClauseHead : Rule (List Node) := do return [← communication]

end GoAssets.Go
