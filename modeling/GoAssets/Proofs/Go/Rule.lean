import GoAssets.Go.Rule

/-!
# Following a rule

Most rules have one reading at most places. The lemmas here follow such a reading step by step: what
stands before a `do` reads something, takes a number of items or looks ahead, and what stands after
it goes on from there. The repetitions `loop` and `explore` are followed one round at a time.
-/

namespace GoAssets.Go.Rule

variable {α β σ : Type} {p : Rule α} {f : α → Rule β} {a : α} {c c' : Cursor} {i : Nat}
  {items : List Item}

/-! ## Sequences -/

/-- A rule with one reading, which weighs nothing, is followed by what comes after it. -/
theorem bind_of_reads (h : p c = [⟨a, 0, c'⟩]) : (p >>= f) c = f a c' := by
  rw [bind_apply, h, List.flatMap_singleton]
  simp

theorem peek_bind (f : List Item → Rule β) : (peek >>= f) c = f c.items c :=
  bind_of_reads rfl

theorem drop_bind (n : Nat) (f : Unit → Rule β) :
    (drop n >>= f) c = f () ⟨c.index + n, c.items.drop n⟩ :=
  bind_of_reads rfl

theorem given_bind {o : Option (Weighted α)} (h : o = some ⟨a, 0⟩) : (given o >>= f) c = f a c := by
  subst h
  exact bind_of_reads rfl

theorem peekOn_bind {x : Item} (h : x.isLine = false) (f : List Item → Rule β) :
    (peekOn >>= f) ⟨i, x :: items⟩ = f (x :: items) ⟨i, x :: items⟩ := by
  cases x <;> first | exact bind_of_reads rfl | cases h

/-- Looking ahead past the end of a line takes it. -/
theorem peekOn_bind_line (f : List Item → Rule β) :
    (peekOn >>= f) ⟨i, .line :: items⟩ = f items ⟨i + 1, items⟩ :=
  bind_of_reads rfl

theorem peekOn_bind_nil (f : List Item → Rule β) : (peekOn >>= f) ⟨i, []⟩ = f [] ⟨i, []⟩ :=
  bind_of_reads rfl

theorem word_apply (w : String) : word ⟨i, .word w :: items⟩ = [⟨w, 0, i + 1, items⟩] := by
  rw [word, peekOn_bind rfl]
  exact drop_bind 1 _

theorem round_apply (g : Round) : round ⟨i, .round g :: items⟩ = [⟨g, 0, i + 1, items⟩] := by
  rw [round, peekOn_bind rfl]
  exact drop_bind 1 _

/-! ## Choices -/

theorem orElse_of_fails {q : Rule α} (h : p c = []) : (p <|> q) c = q c := by
  rw [orElse_apply, h, List.nil_append]

theorem settle_of_reads {r : Reading α} (yields : Reading α → Bool) (h : p c = [r]) :
    settle yields p c = [r] := by
  rw [settle, h]

/-- Of two readings that stop at the same place the heavier one is meant. -/
theorem settle_of_lighter {r s : Reading α} (yields : Reading α → Bool) (h : p c = [r, s])
    (hplace : s.rest.index = r.rest.index) (hweight : r.weight < s.weight) :
    settle yields p c = [s] := by
  rw [settle, h]
  simp [insert, hplace, hweight]

/-! ## Repetition

One round at a time, while there is only one reading under way: it is done, or it goes on. -/

variable {step : σ → Rule (σ ⊕ α)} {s s' : σ} {k w : Int} {bound : List Item}

theorem loopFrom_done (h : step s c = [⟨.inr a, k, c'⟩]) :
    loopFrom step bound w s c = [⟨a, w + k, c'⟩] := by
  cases bound <;> simp [loopFrom, h]

theorem loopFrom_more {x : Item} (h : step s c = [⟨.inl s', k, c'⟩]) :
    loopFrom step (x :: bound) w s c = loopFrom step bound (w + k) s' c' := by
  simp only [loopFrom, h]

theorem loop_done (h : step s c = [⟨.inr a, k, c'⟩]) : loop step s c = [⟨a, k, c'⟩] := by
  rw [loop, loopFrom_done h, Int.zero_add]

theorem exploreFrom_done {x : Item} {yields : Reading σ → Bool}
    (h : step s c = [⟨.inr a, k, c'⟩]) :
    exploreFrom yields step (x :: bound) [⟨s, w, c⟩] [] = [⟨a, w + k, c'⟩] := by
  rw [exploreFrom, h]
  cases bound <;> rfl

theorem exploreFrom_more {x : Item} {yields : Reading σ → Bool} {done : List (Reading α)}
    (h : step s c = [⟨.inl s', k, c'⟩]) :
    exploreFrom yields step (x :: bound) [⟨s, w, c⟩] done
      = exploreFrom yields step bound [⟨s', w + k, c'⟩] done := by
  rw [exploreFrom, h]
  rfl

/-- A round depends on what the step reads at its place, not on the place. -/
theorem exploreFrom_congr {x : Item} {yields : Reading σ → Bool} {done : List (Reading α)}
    (h : step s c = step s c') :
    exploreFrom yields step (x :: bound) [⟨s, w, c⟩] done
      = exploreFrom yields step (x :: bound) [⟨s, w, c'⟩] done := by
  rw [exploreFrom, exploreFrom, h]

theorem whole_of_reads {j : Nat} (h : p ⟨0, items⟩ = [⟨a, w, j, []⟩]) :
    p.whole items = some ⟨a, w⟩ := by
  rw [whole, h]
  rfl

end GoAssets.Go.Rule
