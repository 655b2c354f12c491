import GoAssets.Go.Node

/-!
# Items

What stands between brackets can be read in several ways: parentheses hold arguments, parameters, an
expression or a type, and what is meant is decided only by what stands around them. So a pair of
brackets is read once, in every way, as soon as it is closed, and takes part in what surrounds it as
a single item that holds all its readings.

Where a text has several readings, the one of the largest weight is meant: type arguments weigh for
a reading, bare type names, conversions and instantiations against it. A reading therefore carries
its weight.
-/

namespace GoAssets.Go

/-- Something read, with the weight of its reading. -/
structure Weighted (α : Type) where
  value : α
  weight : Int := 0

/-- What stands between parentheses, in every way in which it can be read. -/
structure Round where
  arguments : Option (Weighted Node) := none
  /-- The arguments of `new` and `make`, of which the first is a type. -/
  builtinArguments : Option (Weighted Node) := none
  operand : Option (Weighted Node) := none
  expression : Option (Weighted Node) := none
  /-- A type, where no expression can stand. -/
  type : Option (Weighted Node) := none
  /-- A type, where an expression can stand as well. -/
  jointType : Option (Weighted Node) := none
  /-- The word `type`, which asks for a dynamic type. -/
  asksType : Bool := false
  /-- The parameters or the results of a function. -/
  parameters : Option (Weighted Node) := none
  constants : Option (Weighted (List Node)) := none
  vars : Option (Weighted (List Node)) := none
  types : Option (Weighted (List Node)) := none
  imports : Option (Weighted (List Node)) := none

structure Square where
  /-- Nothing, as in a slice type. -/
  isEmpty : Bool := false
  /-- Three dots, for the length of an array that its literal gives. -/
  isImplicit : Bool := false
  /-- An index, or the length of an array. -/
  index : Option (Weighted Node) := none
  bounds : Option (Weighted (List Node)) := none
  key : Option (Weighted Node) := none
  /-- Type arguments, where no index can stand. -/
  typeArguments : Option (Weighted Node) := none
  /-- Type arguments of a function, where an index can stand as well. -/
  calleeArguments : Option (Weighted Node) := none
  instances : Option (Weighted (List Node)) := none
  typeParameters : Option (Weighted Node) := none
  /-- The type parameters of a type, where the length of an array can stand as well. -/
  jointTypeParameters : Option (Weighted Node) := none
  /-- The length of an array, where type parameters can stand as well. -/
  jointLength : Option (Weighted Node) := none

structure Curly where
  block : Option (Weighted Node) := none
  /-- The elements of a composite literal. -/
  literal : Option (Weighted Node) := none
  fields : Option (Weighted Node) := none
  /-- The elements of an interface. -/
  elements : Option (Weighted (List Node)) := none
  valueClauses : Option (Weighted (List Node)) := none
  typeClauses : Option (Weighted (List Node)) := none
  communicationClauses : Option (Weighted (List Node)) := none

/-- A piece of a source text in which every pair of brackets is a single piece. -/
inductive Item where
  | line
  /-- An identifier or a keyword. -/
  | word (w : String)
  /-- A string, a rune or a number. -/
  | literal (node : Node)
  /-- A single character of punctuation; `glued` if it directly follows another one. -/
  | mark (c : Char) (glued : Bool)
  | round (g : Round)
  | square (g : Square)
  | curly (g : Curly)
  /-- The end of the file, if no blank stands before it. -/
  | fileEnd

def Item.isLine : Item → Bool
  | line => true
  | _ => false

def wordNode (kind w : String) : Node := Node.token kind w.toList

end GoAssets.Go
