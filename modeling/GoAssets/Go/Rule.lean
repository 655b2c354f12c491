import GoAssets.Go.Item

/-!
# Rules

A `Rule` of the grammar reads something from the front of a sequence of items, in every way that is
possible: each `Reading` has a value, a weight and the place at which it stops. Rules are combined
with `do`; readings that fail later are dropped, and the weights of the parts add up.

Two combinators repeat a rule. `Rule.loop` follows every reading by itself. `Rule.explore` is for
lists, whose readings meet again: of those that stand at the same place only the heaviest is kept, so
the number of readings stays bounded by the number of places.
-/

namespace GoAssets.Go

/-- A place in a sequence of items: the number of items before it, and the items from it on. -/
structure Cursor where
  index : Nat
  items : List Item

/-- One way to read the items at a place. -/
structure Reading (α : Type) where
  value : α
  weight : Int
  rest : Cursor

/-- Reads something from the front of a sequence of items, in every possible way. -/
def Rule (α : Type) := Cursor → List (Reading α)

namespace Rule

variable {α β σ : Type}

instance : Monad Rule where
  pure a := fun c => [⟨a, 0, c⟩]
  bind p f := fun c => (p c).flatMap fun r =>
    (f r.value r.rest).map fun s => { s with weight := r.weight + s.weight }

/-- The readings of both rules. -/
instance : OrElse (Rule α) where
  orElse p q := fun c => p c ++ q () c

theorem pure_apply (a : α) (c : Cursor) : (pure a : Rule α) c = [⟨a, 0, c⟩] := rfl

/-- Each reading of the first rule goes on with every reading of the second. -/
theorem bind_apply (p : Rule α) (f : α → Rule β) (c : Cursor) :
    (p >>= f) c = (p c).flatMap fun r =>
      (f r.value r.rest).map fun s => { s with weight := r.weight + s.weight } := rfl

/-- A choice has the readings of both rules, those of the first one first. -/
theorem orElse_apply (p q : Rule α) (c : Cursor) : (p <|> q) c = p c ++ q c := rfl

/-- A sequence of rules has the same readings and weights however it is grouped. -/
instance : LawfulMonad Rule := LawfulMonad.mk' Rule
  (fun p => by
    funext c
    change (p c).flatMap (fun r => [{ r with weight := r.weight + 0 }]) = p c
    simp)
  (fun a f => by
    funext c
    simp [bind_apply, pure_apply])
  (fun p f g => by
    funext c
    simp [bind_apply, List.flatMap_assoc, List.map_flatMap, List.flatMap_map, Function.comp_def,
      Int.add_assoc])

def fail : Rule α := fun _ => []

/-- A reading that takes nothing and weighs something. -/
def weigh (w : Int) : Rule Unit := fun c => [⟨(), w, c⟩]

/-- What is read already, if there is something. -/
def given : Option (Weighted α) → Rule α
  | none => fail
  | some x => fun c => [⟨x.value, x.weight, c⟩]

def peek : Rule (List Item) := fun c => [⟨c.items, 0, c⟩]

def drop (n : Nat) : Rule Unit := fun c => [⟨(), 0, c.index + n, c.items.drop n⟩]

def skipLine : Rule Unit := fun c =>
  match c.items with
  | .line :: rest => [⟨(), 0, c.index + 1, rest⟩]
  | _ => [⟨(), 0, c⟩]

/-- The items that follow on this line or a later one. -/
def peekOn : Rule (List Item) := do
  skipLine
  peek

def word : Rule String := do
  match ← peekOn with
  | .word w :: _ => drop 1; return w
  | _ => fail

def mark (c : Char) : Rule Unit := do
  match ← peekOn with
  | .mark d _ :: _ => if c = d then drop 1 else fail
  | _ => fail

def round : Rule Round := do
  match ← peekOn with
  | .round g :: _ => drop 1; return g
  | _ => fail

def square : Rule Square := do
  match ← peekOn with
  | .square g :: _ => drop 1; return g
  | _ => fail

def curly : Rule Curly := do
  match ← peekOn with
  | .curly g :: _ => drop 1; return g
  | _ => fail

/-! ## Choosing readings -/

/-- Insert a reading among others in the order of their places. Of two at the same place the heavier
one stays, and of two of the same weight the one that was there, unless it `yields`. -/
def insert (yields : Reading α → Bool) (r : Reading α) : List (Reading α) → List (Reading α)
  | [] => [r]
  | s :: rest =>
    if r.rest.index < s.rest.index then r :: s :: rest
    else if r.rest.index = s.rest.index then
      (if s.weight < r.weight ∨ (s.weight = r.weight ∧ yields s) then r else s) :: rest
    else s :: insert yields r rest

/-- Of the readings that stop at the same place, the first of the heaviest that does not yield. -/
def settle (yields : Reading α → Bool) (p : Rule α) : Rule α := fun c =>
  match p c with
  | [] => []
  | [r] => [r]
  | rs => rs.foldl (fun found r => insert yields r found) []

/-- The heaviest reading of all items, and the first of those. -/
def whole (p : Rule α) (items : List Item) : Option (Weighted α) :=
  (p ⟨0, items⟩).foldl (fun best r =>
    if r.rest.items.isEmpty then
      match best with
      | none => some ⟨r.value, r.weight⟩
      | some b => if b.weight < r.weight then some ⟨r.value, r.weight⟩ else some b
    else best) none

/-! ## Repetition -/

/-- The rounds of `loop`, when readings of a weight led here. The first argument bounds the number
of further rounds. -/
def loopFrom (step : σ → Rule (σ ⊕ α)) : List Item → Int → σ → Rule α
  | [], w, s => fun c => (step s c).filterMap fun r =>
    match r.value with
    | .inl _ => none
    | .inr a => some ⟨a, w + r.weight, r.rest⟩
  | _ :: bound, w, s => fun c =>
    match step s c with
    | [⟨.inr a, k, rest⟩] => [⟨a, w + k, rest⟩]
    | [⟨.inl s, k, rest⟩] => loopFrom step bound (w + k) s rest
    | rs => rs.flatMap fun r =>
      match r.value with
      | .inl s => loopFrom step bound (w + r.weight) s r.rest
      | .inr a => [⟨a, w + r.weight, r.rest⟩]

/-- Repeat a step, which goes on with a new state or is done. A step that goes on takes at least one
item, so there are no more rounds than items. -/
def loop (step : σ → Rule (σ ⊕ α)) (start : σ) : Rule α := fun c =>
  loopFrom step c.items 0 start c

/-- The rounds of `explore`: the readings under way in the order of their places, and those that are
done. The first argument bounds the number of rounds. -/
def exploreFrom (yields : Reading σ → Bool) (step : σ → Rule (σ ⊕ α)) :
    List Item → List (Reading σ) → List (Reading α) → List (Reading α)
  | _, [], done => done
  | [], _, done => done
  | _ :: bound, r :: rs, done =>
    let (rs, done) := (step r.value r.rest).foldl (fun (rs, done) next =>
      let w := r.weight + next.weight
      match next.value with
      | .inl s => (insert yields ⟨s, w, next.rest⟩ rs, done)
      | .inr a => (rs, insert (fun _ => false) ⟨a, w, next.rest⟩ done)) (rs, done)
    exploreFrom yields step bound rs done

/-- Repeat a step like `loop`, and keep only the heaviest of the readings at the same place. Each
round leaves one place for good, so there are at most as many as places. -/
def explore (yields : Reading σ → Bool) (step : σ → Rule (σ ⊕ α)) (start : σ) : Rule α := fun c =>
  exploreFrom yields step (.line :: c.items) [⟨start, 0, c⟩] []

end Rule

/-! ## Lists -/

def splitCommas (items : List Item) : List (List Item) :=
  let (current, parts) := items.foldr (fun i (current, parts) =>
    match i with
    | .mark ',' _ => ([], current :: parts)
    | _ => (i :: current, parts)) ([], [])
  current :: parts

/-- The items between commas, of which one may stand at the end. -/
def commaParts (items : List Item) : List (List Item) :=
  match (splitCommas items).reverse with
  | [] :: part :: rest => (part :: rest).reverse
  | _ => splitCommas items

/-- The values of weighted readings, with their weight together. -/
def weighAll {α : Type} (xs : List (Weighted α)) : Weighted (List α) :=
  ⟨xs.map (·.value), xs.foldr (fun x w => x.weight + w) 0⟩

/-- Something with commas between, each part read as a whole. -/
def commaList {α : Type} (part : Rule α) (items : List Item) : Option (Weighted (List α)) :=
  ((commaParts items).mapM part.whole).map weighAll

def optionalList {α : Type} (list : List Item → Option (Weighted (List α))) (items : List Item) :
    Option (Weighted (List α)) :=
  if items.isEmpty then some ⟨[], 0⟩ else list items

/-- A list that may also be empty or a single comma. -/
def looseList {α : Type} (list : List Item → Option (Weighted (List α))) (items : List Item) :
    Option (Weighted (List α)) :=
  match items with
  | [] | [.mark ',' _] => some ⟨[], 0⟩
  | _ => list items

end GoAssets.Go
