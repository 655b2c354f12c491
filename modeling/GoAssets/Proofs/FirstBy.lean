import Mathlib.Data.List.Induction

/-!
# The first of each key

`firstBy` keeps, of the elements of a list with the same key, only the first. Directories become
bundles in this way, and references become assets: the directory of a file and the name of an asset
are the keys. What a program does that looks at one element after another is `firstBy_concat`.
-/

namespace GoAssets

variable {α κ : Type} [BEq κ]

/-- Of the elements with the same key only the first. -/
def firstBy (key : α → κ) (xs : List α) : List α :=
  xs.eraseDupsBy (fun x y => key y == key x)

variable (key : α → κ)

theorem eraseDupsBy_loop_eq_foldl (r : α → α → Bool) (xs found : List α) :
    List.eraseDupsBy.loop r xs found =
      (xs.foldl (fun found x => if found.any (r x) then found else x :: found) found).reverse := by
  induction xs generalizing found with
  | nil => rfl
  | cons x xs ih =>
      rw [List.eraseDupsBy.loop, List.foldl_cons]
      cases found.any (r x) <;> simp [ih]

@[simp] theorem firstBy_nil : firstBy key [] = [] := rfl

/-- One more element is kept if its key is new. -/
theorem firstBy_concat (xs : List α) (x : α) :
    firstBy key (xs ++ [x])
      = if (firstBy key xs).any (fun y => key y == key x) then firstBy key xs
        else firstBy key xs ++ [x] := by
  simp only [firstBy, List.eraseDupsBy, eraseDupsBy_loop_eq_foldl, List.foldl_append,
    List.foldl_cons, List.foldl_nil, List.any_reverse]
  split <;> simp

/-- Keeping the first of each key loses no key. -/
theorem exists_mem_firstBy_iff [LawfulBEq κ] (xs : List α) (k : κ) :
    (∃ x ∈ firstBy key xs, key x = k) ↔ ∃ x ∈ xs, key x = k := by
  induction xs using List.reverseRecOn with
  | nil => rfl
  | append_singleton xs x ih =>
      have hsplit : (∃ y ∈ xs ++ [x], key y = k) ↔ (∃ y ∈ xs, key y = k) ∨ key x = k := by
        simp [or_and_right, exists_or]
      rw [firstBy_concat, hsplit, ← ih]
      split
      · rename_i h
        obtain ⟨y, hy, hkey⟩ := List.any_eq_true.mp h
        -- The key of `x` is there already, as that of `y`.
        exact ⟨.inl, fun h => h.elim id fun hx => ⟨y, hy, (eq_of_beq hkey).trans hx⟩⟩
      · simp [or_and_right, exists_or]

theorem firstBy_concat_of_mem [LawfulBEq κ] {xs : List α} {x : α} (h : ∃ y ∈ xs, key y = key x) :
    firstBy key (xs ++ [x]) = firstBy key xs := by
  obtain ⟨y, hy, hkey⟩ := (exists_mem_firstBy_iff key xs (key x)).mpr h
  rw [firstBy_concat, if_pos]
  exact List.any_eq_true.mpr ⟨y, hy, beq_iff_eq.mpr hkey⟩

theorem firstBy_concat_of_new [LawfulBEq κ] {xs : List α} {x : α} (h : ∀ y ∈ xs, key y ≠ key x) :
    firstBy key (xs ++ [x]) = firstBy key xs ++ [x] := by
  rw [firstBy_concat, if_neg]
  intro hany
  obtain ⟨y, hy, hkey⟩ := List.any_eq_true.mp hany
  obtain ⟨z, hz, hz'⟩ := (exists_mem_firstBy_iff key xs (key x)).mp ⟨y, hy, eq_of_beq hkey⟩
  exact h z hz hz'

/-- What is kept of a key is what a search for the key finds. -/
theorem find?_of_mem_firstBy [LawfulBEq κ] {xs : List α} {x : α} (h : x ∈ firstBy key xs) :
    xs.find? (fun y => key y == key x) = some x := by
  induction xs using List.reverseRecOn with
  | nil => cases h
  | append_singleton xs y ih =>
      by_cases hmet : ∃ z ∈ xs, key z = key y
      · rw [firstBy_concat_of_mem key hmet] at h
        rw [List.find?_append, ih h]
        rfl
      · have hnew : ∀ z ∈ xs, key z ≠ key y := fun z hz hkey => hmet ⟨z, hz, hkey⟩
        rw [firstBy_concat_of_new key hnew] at h
        rcases List.mem_append.mp h with h | h
        · rw [List.find?_append, ih h]
          rfl
        · obtain rfl := List.mem_singleton.mp h
          have hnone : xs.find? (fun z => key z == key x) = none := by
            simpa [List.find?_eq_none] using hnew
          simp [hnone]

/-- No key is kept twice. -/
theorem nodup_map_firstBy [LawfulBEq κ] (xs : List α) : ((firstBy key xs).map key).Nodup := by
  induction xs using List.reverseRecOn with
  | nil => exact List.nodup_nil
  | append_singleton xs x ih =>
      rw [firstBy_concat]
      split
      · exact ih
      · rename_i hnew
        rw [List.map_append, List.map_singleton]
        refine List.nodup_append.mpr ⟨ih, by simp, ?_⟩
        intro k hk k' hk' hsame
        obtain ⟨y, hy, rfl⟩ := List.mem_map.mp hk
        obtain rfl := List.mem_singleton.mp hk'
        exact hnew (List.any_eq_true.mpr ⟨y, hy, beq_iff_eq.mpr hsame⟩)

/-- Of two further elements with different keys, each is kept if its key is new among those before
both. -/
theorem firstBy_pair [LawfulBEq κ] {x y : α} (h : key x ≠ key y) (xs : List α) :
    firstBy key (xs ++ [x, y])
      = firstBy key xs ++ ([x, y].filter fun z =>
          !(firstBy key xs).any (fun w => key w == key z)) := by
  have hsplit : xs ++ [x, y] = xs ++ [x] ++ [y] := by simp
  rw [hsplit, firstBy_concat, firstBy_concat]
  cases hx : (firstBy key xs).any fun w => key w == key x <;>
    cases hy : (firstBy key xs).any fun w => key w == key y <;>
    simp [hx, hy, h]

/-- Exchanging two neighbours with different keys exchanges them in what is kept, if both are kept
there, and otherwise changes nothing. -/
theorem firstBy_exchange [LawfulBEq κ] {x y : α} (h : key x ≠ key y) (xs ys : List α) :
    firstBy key (xs ++ [x, y] ++ ys) = firstBy key (xs ++ [y, x] ++ ys)
      ∨ ∃ before after, firstBy key (xs ++ [x, y] ++ ys) = before ++ [x, y] ++ after
        ∧ firstBy key (xs ++ [y, x] ++ ys) = before ++ [y, x] ++ after := by
  induction ys using List.reverseRecOn with
  | nil =>
      rw [List.append_nil, List.append_nil, firstBy_pair key h, firstBy_pair key h.symm]
      cases hx : (firstBy key xs).any fun w => key w == key x <;>
        cases hy : (firstBy key xs).any fun w => key w == key y
      · exact .inr ⟨firstBy key xs, [], by simp [hx, hy], by simp [hx, hy]⟩
      all_goals exact .inl (by simp [hx, hy])
  | append_singleton ys z ih =>
      rw [← List.append_assoc, ← List.append_assoc, firstBy_concat, firstBy_concat]
      rcases ih with heq | ⟨before, after, hxy, hyx⟩
      · rw [heq]
        exact .inl rfl
      · -- What is kept has the same keys in both orders, so `z` is kept in both or in none.
        have hany : (before ++ [x, y] ++ after).any (fun w => key w == key z)
            = (before ++ [y, x] ++ after).any (fun w => key w == key z) := by
          simp only [List.any_append, List.any_cons, List.any_nil, Bool.or_false]
          rw [Bool.or_comm (key x == key z)]
        rw [hxy, hyx, hany]
        split
        · exact .inr ⟨before, after, rfl, rfl⟩
        · exact .inr ⟨before, after ++ [z], by simp, by simp⟩

end GoAssets
