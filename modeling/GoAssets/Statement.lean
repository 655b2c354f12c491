import GoAssets.Syntax.Walk
import GoAssets.Text.Quoted

/-!
# Asset statements

The one form of statement that a scan acts on is `target = receiver.method("path")`: a single
name is assigned the result of calling a method of a name with a single string literal.
-/

namespace GoAssets

/-- A call of a method of a name with one string literal. -/
structure MethodCall where
  receiver : String
  method : String
  path : String
deriving DecidableEq, Repr

def MethodCall.text (c : MethodCall) : String :=
  c.receiver ++ "." ++ c.method ++ "(" ++ Text.quote c.path ++ ")"

/-- The assignment of a method call to a name. -/
structure Statement where
  target : String
  call : MethodCall
deriving DecidableEq, Repr

def Statement.text (s : Statement) : String :=
  s.target ++ " = " ++ s.call.text

/-- A text without the given quote at both its ends, if it has two. -/
def stripQuotes? (q : Char) (cs : List Char) : Option (List Char) :=
  match cs with
  | [] => none
  | c :: rest =>
    if c = q ∧ rest.getLast? = some q then some rest.dropLast else none

/-- The content of a string literal: double quotes are removed, else backquotes. -/
def unquote (raw : String) : String :=
  let cs := raw.toList
  String.ofList (((stripQuotes? '"' cs).or (stripQuotes? '\x60' cs)).getD cs)

namespace Tree

def methodCall? : Tree → Option MethodCall
  | call (selector (identifier receiver) method) [stringLiteral raw] =>
    some ⟨receiver, method, unquote raw⟩
  | _ => none

def statement? : Tree → Option Statement
  | assignment [identifier target] [value] => value.methodCall?.map (⟨target, ·⟩)
  | _ => none

/-- The asset statements of a tree, in the order of a walk. -/
def statements (t : Tree) : List Statement :=
  let visit : Visitor (Array Statement) Empty := fun node found =>
    (match node.statement? with
      | some s => found.push s
      | none => found, none)
  (t.walk visit #[]).1.toList

/-- The method calls of a tree, assigned or not, in the order of a walk. -/
def methodCalls (t : Tree) : List MethodCall :=
  let visit : Visitor (Array MethodCall) Empty := fun node found =>
    (match node.methodCall? with
      | some c => found.push c
      | none => found, none)
  (t.walk visit #[]).1.toList

end Tree

end GoAssets
