import GoAssets.Error

/-!
# Data with the errors met on the way

A result that is still useful after errors that concern single files: the data, and those
errors in the order in which they were met.
-/

namespace GoAssets

/-- Data together with the errors that did not prevent it. -/
structure Outcome (α : Type) where
  data : α
  errors : List Error := []

namespace Outcome

variable {α : Type}

def addError (o : Outcome α) (e : Error) : Outcome α :=
  { o with errors := o.errors ++ [e] }

def errorCount (o : Outcome α) : Nat := o.errors.length

def isClean (o : Outcome α) : Bool := o.errors.isEmpty

end Outcome

end GoAssets
