import GoAssets.Go.File
import GoAssets.Proofs.Go.Rule

/-!
# How a file with one function is read

The items of a package clause and of one function without parameters and results, up to the end of
the file, are read as a clause and a declaration, if the braces of the function hold a block.
-/

namespace GoAssets.Go

open Rule

def packageNode (package : String) : Node :=
  Node.inner "package_clause" [wordNode "package_identifier" package]

def functionNode (name : String) (body : Node) : Node :=
  Node.inner "function_declaration"
    [wordNode "identifier" name, Node.inner "parameter_list" [], body]

variable {i : Nat} {items : List Item} {name package : String} {braces : Curly} {body : Node}

theorem fileStep_package :
    fileStep [] ⟨i, .word "package" :: .word package :: .line :: items⟩
      = [⟨.inl [packageNode package], 0, i + 3, items⟩] := by
  have hitem : fileItem ⟨i, .word "package" :: .word package :: .line :: items⟩
      = [⟨⟨packageNode package, true⟩, 0, i + 2, .line :: items⟩] := by
    rw [fileItem, peekOn_bind rfl]
    simp only [drop_bind]
    exact bind_of_reads (word_apply package)
  rw [fileStep, peekOn_bind rfl]
  simp only []
  rw [bind_of_reads hitem, peek_bind]
  exact drop_bind 1 _

theorem functionTail_apply (h : braces.block = some ⟨body, 0⟩) :
    functionTail ⟨i, .round (readRound []) :: .curly braces :: items⟩
      = [⟨[Node.inner "parameter_list" [], body], 0, i + 2, items⟩] := by
  have hparameters : (readRound []).parameters = some ⟨Node.inner "parameter_list" [], 0⟩ := rfl
  rw [functionTail, bind_of_reads (round_apply _), given_bind hparameters]
  have hresult : declaredResult ⟨i + 1, .curly braces :: items⟩
      = [⟨[], 0, i + 1, .curly braces :: items⟩] := rfl
  rw [bind_of_reads hresult, peek_bind]
  simp only [drop_bind]
  exact given_bind h

theorem functionDeclaration_apply (h : braces.block = some ⟨body, 0⟩) :
    functionDeclaration ⟨i, .word name :: .round (readRound []) :: .curly braces :: items⟩
      = [⟨functionNode name body, 0, i + 3, items⟩] := by
  rw [functionDeclaration, bind_of_reads (word_apply name)]
  -- No brackets follow the name, so there are no type parameters.
  rw [bind_of_reads (peekOn_bind rfl _)]
  exact bind_of_reads (functionTail_apply h)

theorem fileItem_function (h : braces.block = some ⟨body, 0⟩) :
    fileItem ⟨i, .word "func" :: .word name :: .round (readRound []) :: .curly braces :: items⟩
      = [⟨⟨functionNode name body, true⟩, 0, i + 4, items⟩] := by
  rw [fileItem, peekOn_bind rfl]
  simp only [drop_bind]
  exact bind_of_reads (functionDeclaration_apply h)

theorem fileStep_function_fileEnd (h : braces.block = some ⟨body, 0⟩) (found : List Node) :
    fileStep found ⟨i, [.word "func", .word name, .round (readRound []), .curly braces, .fileEnd]⟩
      = [⟨.inr (functionNode name body :: found).reverse, 0, i + 5, []⟩] := by
  rw [fileStep, peekOn_bind rfl]
  simp only []
  rw [bind_of_reads (fileItem_function h), peek_bind]
  exact drop_bind 1 _

theorem fileStep_function_line (h : braces.block = some ⟨body, 0⟩) (found : List Node) :
    fileStep found ⟨i, .word "func" :: .word name :: .round (readRound []) :: .curly braces
        :: .line :: items⟩
      = [⟨.inl (functionNode name body :: found), 0, i + 5, items⟩] := by
  rw [fileStep, peekOn_bind rfl]
  simp only []
  rw [bind_of_reads (fileItem_function h), peek_bind]
  exact drop_bind 1 _

theorem fileStep_nil (found : List Node) :
    fileStep found ⟨i, []⟩ = [⟨.inr found.reverse, 0, i + 1, []⟩] := rfl

/-- The items of a file with one function, which ends with the file or with its line. -/
def functionFile (package name : String) (braces : Curly) (last : Item) : List Item :=
  [.word "package", .word package, .line, .word "func", .word name, .round (readRound []),
    .curly braces, last]

/-- A file with one function is read as its package clause and the function. -/
theorem fileItems_function (h : braces.block = some ⟨body, 0⟩) {last : Item}
    (hlast : last = .fileEnd ∨ last = .line) :
    fileItems.whole (functionFile package name braces last)
      = some ⟨[packageNode package, functionNode name body], 0⟩ := by
  rw [functionFile]
  rcases hlast with rfl | rfl
  · refine whole_of_reads (j := 8) ?_
    rw [fileItems, explore, exploreFrom_more fileStep_package,
      exploreFrom_done (fileStep_function_fileEnd h _)]
    rfl
  · refine whole_of_reads (j := 9) ?_
    rw [fileItems, explore, exploreFrom_more fileStep_package,
      exploreFrom_more (fileStep_function_line h _), exploreFrom_done (fileStep_nil _)]
    rfl

end GoAssets.Go
