import GoAssets.Go.Group

/-!
# Files

The grammar of a whole file: package clauses, imports, functions, methods and statements, each up to
the end of its line. A declaration that can only stand in a file, and a statement that ends in a
value, may also end with the file.
-/

namespace GoAssets.Go

open Rule

def importDeclaration : Rule Node := do
  match ← peekOn with
  | .round g :: _ =>
    drop 1
    let specs ← given g.imports
    return Node.inner "import_declaration" [Node.inner "import_spec_list" specs]
  | _ => return Node.inner "import_declaration" [← importSpec]

/-- The parameters, the result and the body of a declared function. -/
def functionTail : Rule (List Node) := do
  let parameters ← given (← round).parameters
  let result ← declaredResult
  match ← peek with
  | .curly g :: _ =>
    drop 1
    return parameters :: result ++ [← given g.block]
  | _ => return parameters :: result

def functionDeclaration : Rule Node := do
  let w ← word
  let parameters ← (do
    match ← peekOn with
    | .square g :: _ =>
      drop 1
      return [← given g.typeParameters]
    | _ => return [])
  return Node.inner "function_declaration"
    (wordNode "identifier" w :: parameters ++ (← functionTail))

def methodDeclaration : Rule Node := do
  let receiver ← given (← round).parameters
  let w ← word
  return Node.inner "method_declaration"
    (receiver :: wordNode "field_identifier" w :: (← functionTail))

/-- Whether a method is declared here, after the word `func`: a receiver, a name and parameters. A
word that starts a type is no name of a method, since the parameters could be those of a function
that returns it. -/
def declaresMethod (items : List Item) : Bool :=
  match items.filter (!·.isLine) with
  | .round _ :: .word w :: .round _ :: _ => !isTypeKeyword w
  | _ => false

def fileItem : Rule StatementNode := do
  match ← peekOn with
  | .word "package" :: _ =>
    drop 1
    return ⟨Node.inner "package_clause" [wordNode "package_identifier" (← word)], true⟩
  | .word "import" :: _ =>
    drop 1
    return ⟨← importDeclaration, true⟩
  | .word "func" :: .word _ :: _ | .word "func" :: .line :: .word _ :: _ =>
    drop 1
    return ⟨← functionDeclaration, true⟩
  | .word "func" :: rest =>
    if declaresMethod (rest.take 6) then do
      drop 1
      return ⟨← methodDeclaration, true⟩
    else statement false false
  | _ => statement false false

/-- One more declaration or statement of a file, or the end of the file. -/
def fileStep (found : List Node) : Rule (List Node ⊕ List Node) := do
  match ← peekOn with
  | [] | [.fileEnd] =>
    drop 1
    return .inr found.reverse
  | _ =>
    let s ← fileItem
    match ← peek with
    | [] | [.fileEnd] =>
      drop 1
      if s.endsInValue then return .inr (s.node :: found).reverse else fail
    | i :: _ =>
      if i.isTerminator then do
        drop 1
        return .inl (s.node :: found)
      else fail

def fileItems : Rule (List Node) := explore (fun _ => false) fileStep []

/-- The concrete syntax of a text, if it is a Go file. -/
def parseNode (cs : List Char) : Option Node := do
  let items ← itemsOf cs
  let nodes ← fileItems.whole items
  return Node.inner "source_file" nodes.value

end GoAssets.Go
