import GoAssets.Text.Ranges
import Mathlib.Data.List.Chain

/-!
# What a look-up in a table of ranges says

`inRanges` halves a table; that it finds what the table holds rests on the order of the ranges.
`inRanges_iff` takes the search out of every later argument: in an increasing table a code point is
found exactly if one of the ranges holds it.

Two tables are compared range by range. `isCoveredBy` is a check that reads both once. If the ranges
of one table cover those of another, what the narrow one holds the wide one holds
(`inRanges_of_isCoveredBy`); if the gaps between its ranges do, it holds none of that
(`not_inRanges_of_gaps`).
-/

namespace GoAssets.Text

def Holds (r : Nat × Nat) (n : Nat) : Prop := r.1 ≤ n ∧ n ≤ r.2

/-- The ranges of a table increase, in where they begin and in where they end. -/
def Increases (table : Array (Nat × Nat)) : Prop :=
  table.toList.IsChain fun r s => r.1 < s.1 ∧ r.2 < s.2

instance (table : Array (Nat × Nat)) : Decidable (Increases table) :=
  inferInstanceAs (Decidable (List.IsChain _ _))

/-! ## Searching -/

theorem Increases.pairwise {table : Array (Nat × Nat)} (h : Increases table) :
    table.toList.Pairwise fun r s => r.1 < s.1 ∧ r.2 < s.2 := by
  have : IsTrans (Nat × Nat) fun r s => r.1 < s.1 ∧ r.2 < s.2 :=
    ⟨fun _ _ _ h₁ h₂ => ⟨h₁.1.trans h₂.1, h₁.2.trans h₂.2⟩⟩
  exact List.isChain_iff_pairwise.mp h

theorem Increases.lt_of_lt {table : Array (Nat × Nat)} (h : Increases table) {i j : Nat}
    {r s : Nat × Nat} (hi : table[i]? = some r) (hj : table[j]? = some s) (hij : i < j) :
    r.1 < s.1 ∧ r.2 < s.2 := by
  rw [← Array.getElem?_toList] at hi hj
  obtain ⟨hi', rfl⟩ := List.getElem?_eq_some_iff.mp hi
  obtain ⟨hj', rfl⟩ := List.getElem?_eq_some_iff.mp hj
  exact List.pairwise_iff_getElem.mp h.pairwise i j hi' hj' hij

theorem exists_holds_of_inRangesBetween {table : Array (Nat × Nat)} {n lo hi : Nat}
    (h : inRangesBetween table n lo hi = true) : ∃ r ∈ table, Holds r n := by
  fun_induction inRangesBetween table n lo hi with
  | case1 => cases h
  | case2 _ _ _ _ _ _ _ _ ih => exact ih h
  | case3 _ _ _ _ _ _ _ _ _ ih => exact ih h
  | case4 _ _ _ _ first last hmid hfirst hlast =>
      exact ⟨(first, last), Array.mem_of_getElem? hmid, Nat.le_of_not_lt hfirst,
        Nat.le_of_not_lt hlast⟩
  | case5 => cases h

/-- The range that holds the code point stays between the bounds of the search. -/
theorem inRangesBetween_of_holds {table : Array (Nat × Nat)} (h : Increases table) {n lo hi i : Nat}
    {r : Nat × Nat} (hi' : table[i]? = some r) (hr : Holds r n) (hlo : lo ≤ i) (hlt : i < hi)
    (hsize : hi ≤ table.size) : inRangesBetween table n lo hi = true := by
  fun_induction inRangesBetween table n lo hi with
  | case1 lo hi _ mid hnone =>
      have := Array.getElem?_eq_none_iff.mp hnone
      omega
  | case2 lo hi _ mid first last hmid hfirst ih =>
      refine ih hlo ?_ (by omega)
      -- Further on, a range would begin after the code point.
      by_contra hge
      rcases Nat.lt_or_eq_of_le (Nat.le_of_not_lt hge) with hlt' | rfl
      · have := (h.lt_of_lt hmid hi' hlt').1
        have := hr.1
        omega
      · obtain rfl := Option.some.inj (hmid.symm.trans hi')
        exact absurd hr.1 (Nat.not_le_of_lt hfirst)
  | case3 lo hi _ mid first last hmid _ hlast ih =>
      refine ih ?_ hlt hsize
      by_contra hle
      rcases Nat.lt_or_eq_of_le (Nat.le_of_lt_succ (Nat.lt_of_not_le hle)) with hlt' | rfl
      · have := (h.lt_of_lt hi' hmid hlt').2
        have := hr.2
        omega
      · obtain rfl := Option.some.inj (hmid.symm.trans hi')
        exact absurd hr.2 (Nat.not_le_of_lt hlast)
  | case4 => rfl
  | case5 lo hi hempty => omega

theorem inRanges_iff {table : Array (Nat × Nat)} (h : Increases table) {n : Nat} :
    inRanges table n = true ↔ ∃ r ∈ table, Holds r n := by
  refine ⟨exists_holds_of_inRangesBetween, ?_⟩
  rintro ⟨r, hmem, hr⟩
  obtain ⟨i, hi, rfl⟩ := Array.mem_iff_getElem.mp hmem
  exact inRangesBetween_of_holds h (Array.getElem?_eq_getElem hi) hr (Nat.zero_le i) hi
    (Nat.le_refl _)

/-! ## Comparing -/

/-- Each of the wide ranges in turn takes away the narrow ones at the front that it holds; in the
end none is left. -/
def isCoveredBy (narrow : List (Nat × Nat)) : List (Nat × Nat) → Bool
  | [] => narrow.isEmpty
  | w :: wide => isCoveredBy (narrow.dropWhile fun r => w.1 ≤ r.1 && r.2 ≤ w.2) wide

theorem exists_of_isCoveredBy {narrow wide : List (Nat × Nat)} (h : isCoveredBy narrow wide = true)
    {r : Nat × Nat} (hr : r ∈ narrow) : ∃ w ∈ wide, w.1 ≤ r.1 ∧ r.2 ≤ w.2 := by
  induction wide generalizing narrow with
  | nil =>
      rw [isCoveredBy, List.isEmpty_iff] at h
      exact absurd (h ▸ hr) List.not_mem_nil
  | cons w wide ih =>
      rw [← List.takeWhile_append_dropWhile (p := fun r => w.1 ≤ r.1 && r.2 ≤ w.2) (l := narrow)]
        at hr
      rcases List.mem_append.mp hr with htaken | hleft
      · have hw := List.all_eq_true.mp List.all_takeWhile r htaken
        exact ⟨w, List.mem_cons_self .., by simpa using hw⟩
      · obtain ⟨v, hv, hcover⟩ := ih h hleft
        exact ⟨v, List.mem_cons_of_mem _ hv, hcover⟩

theorem inRanges_of_isCoveredBy {narrow wide : Array (Nat × Nat)} (hwide : Increases wide)
    (hcover : isCoveredBy narrow.toList wide.toList = true) {n : Nat}
    (h : inRanges narrow n = true) : inRanges wide n = true := by
  obtain ⟨r, hr, hn⟩ := exists_holds_of_inRangesBetween h
  obtain ⟨w, hw, hfirst, hlast⟩ := exists_of_isCoveredBy hcover (Array.mem_toList_iff.mpr hr)
  exact (inRanges_iff hwide).mpr
    ⟨w, Array.mem_toList_iff.mp hw, hfirst.trans hn.1, hn.2.trans hlast⟩

def gaps : List (Nat × Nat) → List (Nat × Nat)
  | r :: s :: rest => (r.2 + 1, s.1 - 1) :: gaps (s :: rest)
  | _ => []

theorem exists_before_of_mem_gaps {ranges : List (Nat × Nat)} {g : Nat × Nat}
    (hg : g ∈ gaps ranges) : ∃ r ∈ ranges, g.1 = r.2 + 1 := by
  fun_induction gaps ranges with
  | case1 r s rest ih =>
      rcases List.mem_cons.mp hg with rfl | hg
      · exact ⟨r, List.mem_cons_self .., rfl⟩
      · obtain ⟨t, ht, heq⟩ := ih hg
        exact ⟨t, List.mem_cons_of_mem _ ht, heq⟩
  | case2 => cases hg

theorem not_holds_of_mem_gaps {ranges : List (Nat × Nat)}
    (h : ranges.Pairwise fun r s => r.1 < s.1 ∧ r.2 < s.2) {g : Nat × Nat} (hg : g ∈ gaps ranges)
    {n : Nat} (hn : Holds g n) {w : Nat × Nat} (hw : w ∈ ranges) : ¬ Holds w n := by
  unfold Holds at hn ⊢
  fun_induction gaps ranges with
  | case1 r s rest ih =>
      obtain ⟨hr, htail⟩ := List.pairwise_cons.mp h
      have hrs := hr s (List.mem_cons_self ..)
      rcases List.mem_cons.mp hg with rfl | hlater
      · -- The range stands before the gap or after it.
        rcases List.mem_cons.mp hw with rfl | hw
        · simp only at hn
          omega
        · have hsw : s.1 ≤ w.1 := by
            rcases List.mem_cons.mp hw with rfl | hw
            · exact Nat.le_refl _
            · exact Nat.le_of_lt ((List.pairwise_cons.mp htail).1 w hw).1
          simp only at hn
          omega
      · rcases List.mem_cons.mp hw with rfl | hw
        · obtain ⟨t, ht, heq⟩ := exists_before_of_mem_gaps hlater
          have := (hr t ht).2
          omega
        · exact ih htail hlater hw
  | case2 => cases hg

theorem not_inRanges_of_gaps {narrow wide : Array (Nat × Nat)} (hwide : Increases wide)
    (hcover : isCoveredBy narrow.toList (gaps wide.toList) = true) {n : Nat}
    (h : inRanges narrow n = true) : inRanges wide n = false := by
  obtain ⟨r, hr, hn⟩ := exists_holds_of_inRangesBetween h
  obtain ⟨g, hg, hfirst, hlast⟩ := exists_of_isCoveredBy hcover (Array.mem_toList_iff.mpr hr)
  rw [← Bool.not_eq_true, inRanges_iff hwide]
  rintro ⟨w, hw, hwn⟩
  exact not_holds_of_mem_gaps hwide.pairwise hg ⟨hfirst.trans hn.1, hn.2.trans hlast⟩
    (Array.mem_toList_iff.mpr hw) hwn

end GoAssets.Text
