import GoAssets.Go.Recovery
import Mathlib.Data.List.Basic

/-!
# What a search for faults finds

`Recovered.search` keeps the nodes still to be looked at on a stack and goes past every node that is
not flagged. `search_eq` ties it to a plain recursion: `faults` lists the faults that it comes to, in
the order of the text, and the search reports how many there are and where the first of them stands.

Going past nodes is safe because of what the flag says. In a tree that is flagged as it should be
(`Flagged`), the faults that the search comes to are all the faults there are, and it finds one
exactly if the tree is flagged (`search_of_flagged`).
-/

namespace GoAssets.Go.Recovered

mutual

/-- A node and everything in it, a node before its parts and the parts left to right. -/
def preorder : Recovered → List Recovered
  | ⟨isError, isMissing, hasError, start, children⟩ =>
    ⟨isError, isMissing, hasError, start, children⟩ :: preorders children

def preorders : List Recovered → List Recovered
  | [] => []
  | n :: ns => n.preorder ++ preorders ns

end

mutual

/-- The faults that a search comes to. There are none in the parts of a node that is not flagged. -/
def faults : Recovered → List Recovered
  | ⟨isError, isMissing, hasError, start, children⟩ =>
    [⟨isError, isMissing, hasError, start, children⟩].filter isFault
      ++ if hasError then faultsIn children else []

def faultsIn : List Recovered → List Recovered
  | [] => []
  | n :: ns => n.faults ++ faultsIn ns

end

/-- The first fault, or the tree itself if there is none. -/
def firstFault (root : Recovered) : Recovered := root.faults.headD root

theorem faultsIn_eq_flatMap (ns : List Recovered) : faultsIn ns = ns.flatMap faults := by
  induction ns with
  | nil => rfl
  | cons n ns ih => rw [faultsIn, ih, List.flatMap_cons]

theorem faults_eq (n : Recovered) :
    n.faults = [n].filter isFault ++ if n.hasError then n.children.flatMap faults else [] := by
  obtain ⟨isError, isMissing, hasError, start, children⟩ := n
  rw [faults, faultsIn_eq_flatMap]

/-- What holds of a node if it holds of its parts holds of every node. -/
theorem parts_induction {P : Recovered → Prop} (step : ∀ n, (∀ c ∈ n.children, P c) → P n)
    (n : Recovered) : P n := by
  induction hsize : n.size using Nat.strongRecOn generalizing n with
  | _ size ih =>
      subst hsize
      apply step
      intro c hc
      refine ih c.size ?_ c rfl
      obtain ⟨before, after, hchildren⟩ := List.append_of_mem hc
      rw [size_eq_succ_children n, hchildren, sizes_append, sizes]
      omega

/-! ## The search -/

theorem foldl_note_filter (found : Faults) (n : Recovered) :
    ([n].filter isFault).foldl note found = note found n := by
  by_cases h : n.isFault = true <;> simp [note, h]

/-- The stack, read from its top, stands for the faults that are still to come. -/
theorem searchAll_eq (found : Faults) (stack : Array Recovered) :
    searchAll found stack = (stack.toList.reverse.flatMap faults).foldl note found := by
  fun_induction searchAll found stack with
  | case1 found stack hempty =>
      rw [Array.back?_eq_none_iff.1 hempty]
      rfl
  | case2 found stack n htop hflag ih =>
      obtain ⟨rest, rfl⟩ := Array.back?_eq_some_iff.1 htop
      rw [ih, Array.toList_push, List.reverse_concat, List.flatMap_cons, faults_eq, if_pos hflag,
        List.foldl_append, List.foldl_append, foldl_note_filter, Array.pop_push,
        Array.toList_appendList, List.reverse_append, List.reverse_reverse, List.flatMap_append,
        List.foldl_append]
  | case3 found stack n htop hflag ih =>
      obtain ⟨rest, rfl⟩ := Array.back?_eq_some_iff.1 htop
      rw [ih, Array.toList_push, List.reverse_concat, List.flatMap_cons, faults_eq, if_neg hflag,
        List.append_nil, List.foldl_append, foldl_note_filter, Array.pop_push]

theorem isFault_of_mem_faults {n f : Recovered} (hf : f ∈ n.faults) : f.isFault = true := by
  induction n using parts_induction with
  | _ n ih =>
      rw [faults_eq] at hf
      rcases List.mem_append.mp hf with hf | hf
      · exact (List.mem_filter.mp hf).2
      · split at hf
        · obtain ⟨c, hc, hf⟩ := List.mem_flatMap.mp hf
          exact ih c hc hf
        · cases hf

/-- Noting faults adds up their number and keeps the first place. -/
theorem foldl_note (found : Faults) {ns : List Recovered} (h : ∀ n ∈ ns, n.isFault = true) :
    ns.foldl note found
      = { count := found.count + ns.length, first := found.first.or (ns.head?.map start) } := by
  induction ns generalizing found with
  | nil => simp
  | cons n ns ih =>
      rw [List.foldl_cons, ih _ fun m hm => h m (List.mem_cons_of_mem _ hm), note,
        if_pos (h n (List.mem_cons_self ..))]
      cases found.first <;> simp <;> omega

/-- A search reports the number of the faults that it comes to, and the place of the first. -/
theorem search_eq (root : Recovered) :
    root.search = { count := root.faults.length, first := root.faults.head?.map start } := by
  have hall : (#[root] : Array Recovered).toList.reverse.flatMap faults = root.faults := by simp
  rw [search, searchAll_eq, hall, foldl_note _ fun n => isFault_of_mem_faults]
  simp

theorem first_search_getD (root : Recovered) :
    root.search.first.getD root.start = root.firstFault.start := by
  rw [search_eq, firstFault]
  cases root.faults <;> rfl

/-! ## Flags -/

/-- A node of the tree is flagged exactly if it is a fault or has one in it. -/
def Flagged (root : Recovered) : Prop :=
  ∀ n ∈ root.preorder, n.hasError = true ↔ ∃ f ∈ n.preorder, f.isFault = true

theorem preorders_eq_flatMap (ns : List Recovered) : preorders ns = ns.flatMap preorder := by
  induction ns with
  | nil => rfl
  | cons n ns ih => rw [preorders, ih, List.flatMap_cons]

theorem preorder_eq_cons (n : Recovered) : n.preorder = n :: n.children.flatMap preorder := by
  obtain ⟨isError, isMissing, hasError, start, children⟩ := n
  rw [preorder, preorders_eq_flatMap]

theorem Flagged.of_mem_children {n c : Recovered} (h : n.Flagged) (hc : c ∈ n.children) :
    c.Flagged := by
  intro m hm
  apply h
  rw [preorder_eq_cons]
  exact List.mem_cons_of_mem _ (List.mem_flatMap.mpr ⟨c, hc, hm⟩)

theorem mem_preorder_self (n : Recovered) : n ∈ n.preorder := by
  rw [preorder_eq_cons]
  exact List.mem_cons_self ..

/-- The search comes to every fault of a tree, in the order in which they stand. -/
theorem faults_eq_filter {root : Recovered} (h : root.Flagged) :
    root.faults = root.preorder.filter isFault := by
  induction root using parts_induction with
  | _ root ih =>
      have hsplit : root.preorder.filter isFault
          = [root].filter isFault ++ (root.children.flatMap preorder).filter isFault := by
        rw [← List.filter_append, List.singleton_append, ← preorder_eq_cons]
      rw [faults_eq, hsplit]
      congr 1
      by_cases hflag : root.hasError = true
      · rw [if_pos hflag, List.filter_flatMap]
        exact List.flatMap_congr fun c hc => ih c hc (h.of_mem_children hc)
      · -- The tree is not flagged, so there is no fault in its parts to go past.
        rw [if_neg hflag, eq_comm, List.filter_eq_nil_iff]
        intro f hf hfault
        refine hflag ((h root root.mem_preorder_self).mpr ⟨f, ?_, hfault⟩)
        rw [preorder_eq_cons]
        exact List.mem_cons_of_mem _ hf

/-- In a tree with the right flags a search counts all the faults, and gives the place of the first.
It finds one exactly if the tree is flagged, so the report on a flagged tree never falls back on the
place where the tree begins. -/
theorem search_of_flagged {root : Recovered} (h : root.Flagged) :
    root.search = { count := (root.preorder.filter isFault).length
                    first := (root.preorder.find? isFault).map start }
    ∧ (root.search.first.isSome = true ↔ root.hasError = true) := by
  have hsearch : root.search = { count := (root.preorder.filter isFault).length
                                 first := (root.preorder.find? isFault).map start } := by
    rw [search_eq, faults_eq_filter h, List.head?_filter]
  refine ⟨hsearch, ?_⟩
  rw [hsearch, h root root.mem_preorder_self, Option.isSome_map, List.find?_isSome]

end GoAssets.Go.Recovered
