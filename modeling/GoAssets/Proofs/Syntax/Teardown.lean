import GoAssets.Syntax.Teardown

/-!
# Taking a tree apart reaches every node once and leaves nothing deep

Equal trees can stand at many places of a tree, so a node is told by its place: the numbers of the
parts that lead to it from the root (`Tree.at?`). The invariant of the loop is about places.
`Standing` says that the pending trees stand at places of the root, none of them inside another;
`Standing.round` keeps it from one round to the next, and `Rounds.exists_taken` follows a run of any
length: a place inside the trees that were pending at first has been taken, once, or is inside a tree
that still is pending, and never both.

What is left of a tree has no part but the empty name (`Emptied`). So its destruction, which takes it
apart again, ends within two levels (`Emptied.destroyedWithin`), and the destruction of any tree
within three, however deep the tree is.
-/

namespace GoAssets.Tree

/-! ## Places -/

/-- The tree at a place: the number of the part to go to, level by level. -/
def at? (t : Tree) : List Nat → Option Tree
  | [] => some t
  | i :: place => t.children[i]?.bind (·.at? place)

theorem at?_append (t : Tree) (place below : List Nat) :
    t.at? (place ++ below) = (t.at? place).bind (·.at? below) := by
  induction place generalizing t with
  | nil => rfl
  | cons i place ih =>
      rw [List.cons_append, at?, at?]
      cases t.children[i]? with
      | none => rfl
      | some part => exact ih part

/-- The places of the parts of a tree, of which this is the place and the number of parts. -/
def placesBelow (place : List Nat) (count : Nat) : List (List Nat) :=
  (List.range count).map fun i => place ++ [i]

theorem mem_placesBelow {place p : List Nat} {count : Nat} :
    p ∈ placesBelow place count ↔ ∃ i, i < count ∧ place ++ [i] = p := by
  simp [placesBelow]

variable {t u : Tree} {place p : List Nat}

theorem map_at?_placesBelow (h : t.at? place = some u) :
    (placesBelow place u.children.length).map t.at? = u.children.map some := by
  have hpart : ∀ i, t.at? (place ++ [i]) = u.children[i]? := by
    intro i
    rw [at?_append, h]
    simp [at?]
  apply List.ext_getElem?
  intro i
  by_cases hi : i < u.children.length
  · simp [placesBelow, hpart, hi]
  · simp [placesBelow, hi]

/-- A place lies in one of the trees at the given places. -/
def Within (places : List (List Nat)) (p : List Nat) : Prop :=
  ∃ place ∈ places, place <+: p

theorem within_append {places places' : List (List Nat)} :
    Within (places ++ places') p ↔ Within places p ∨ Within places' p := by
  simp only [Within, List.mem_append, or_and_right, exists_or]

/-- A node of a tree is the tree itself or lies in one of its parts. -/
theorem prefix_iff_within_placesBelow (h : t.at? place = some u) (hp : (t.at? p).isSome) :
    place <+: p ↔ p = place ∨ Within (placesBelow place u.children.length) p := by
  constructor
  · rintro ⟨below, rfl⟩
    cases below with
    | nil => exact .inl (List.append_nil _)
    | cons i below =>
        rw [at?_append, h, Option.bind_some, at?] at hp
        have hi : i < u.children.length := by
          simpa using Option.isSome_of_isSome_bind hp
        exact .inr ⟨place ++ [i], mem_placesBelow.2 ⟨i, hi, rfl⟩, below, by simp⟩
  · rintro (rfl | ⟨q, hq, hprefix⟩)
    · exact List.prefix_rfl
    · obtain ⟨i, -, rfl⟩ := mem_placesBelow.1 hq
      exact (List.prefix_append place [i]).trans hprefix

/-! ## Trees that stand apart -/

/-- Neither of two places lies in the tree at the other. -/
def Apart (p q : List Nat) : Prop := ¬ p <+: q ∧ ¬ q <+: p

/-- The pending trees stand at these places of a tree, and no two of them overlap. -/
structure Standing (t : Tree) (places : List (List Nat)) (pending : List Tree) : Prop where
  at_places : places.map t.at? = pending.map some
  apart : places.Pairwise Apart

theorem Standing.places_eq_concat {places : List (List Nat)} {init : List Tree}
    (h : Standing t places (init ++ [u])) : ∃ before place, places = before ++ [place] := by
  obtain ⟨before, last, rfl, -, hlast⟩ :=
    List.map_eq_append_iff.1 (h.at_places.trans List.map_append)
  obtain ⟨place, rfl, -⟩ := List.map_eq_singleton_iff.1 hlast
  exact ⟨before, place, rfl⟩

theorem pairwise_apart_placesBelow (place : List Nat) (count : Nat) :
    (placesBelow place count).Pairwise Apart := by
  have hne : (List.range count).Pairwise (· ≠ ·) := List.nodup_range
  refine List.pairwise_map.2 (hne.imp ?_)
  intro i j hij
  constructor
  · intro h
    exact hij (by simpa using h.eq_of_length (by simp))
  · intro h
    exact hij (by simpa using (h.eq_of_length (by simp)).symm)

theorem Apart.below {q : List Nat} (h : Apart q place) (i : Nat) : Apart q (place ++ [i]) := by
  constructor
  · intro hq
    rcases List.prefix_concat_iff.1 hq with rfl | hq
    · exact h.2 (List.prefix_append place [i])
    · exact h.1 hq
  · intro hq
    exact h.2 ((List.prefix_append place [i]).trans hq)

/-- What one round keeps: the parts of the tree that is taken stand inside it, so they are apart from
each other and from the rest. -/
theorem Standing.round {places : List (List Nat)} {init : List Tree}
    (h : Standing t (places ++ [place]) (init ++ [u])) :
    t.at? place = some u
    ∧ Standing t (places ++ placesBelow place u.children.length) (init ++ u.detach.2)
    ∧ ¬ Within (places ++ placesBelow place u.children.length) place := by
  obtain ⟨hat, hapart⟩ := h
  simp only [List.map_append, List.map_cons, List.map_nil] at hat
  obtain ⟨hinit, hlast⟩ := List.append_inj' hat rfl
  have hu : t.at? place = some u := by simpa using hlast
  rw [List.pairwise_append] at hapart
  obtain ⟨hplaces, -, hcross⟩ := hapart
  replace hcross : ∀ q ∈ places, Apart q place := fun q hq => hcross q hq place (by simp)
  refine ⟨hu, ⟨?_, ?_⟩, ?_⟩
  · rw [List.map_append, List.map_append, detach_snd, hinit, map_at?_placesBelow hu]
  · refine List.pairwise_append.2 ⟨hplaces, pairwise_apart_placesBelow _ _, ?_⟩
    intro q hq r hr
    obtain ⟨i, -, rfl⟩ := mem_placesBelow.1 hr
    exact (hcross q hq).below i
  · rintro ⟨q, hq, hprefix⟩
    rcases List.mem_append.1 hq with hq | hq
    · exact (hcross q hq).1 hprefix
    · obtain ⟨i, -, rfl⟩ := mem_placesBelow.1 hq
      have hlength := hprefix.length_le
      rw [List.length_append, List.length_singleton] at hlength
      omega

/-! ## Rounds of the loop -/

/-- The loop goes from one list of pending trees to another, in any number of rounds, and writes down
each tree that it takes with what is left of it. -/
inductive Rounds : List Tree → List (Tree × Tree) → List Tree → Prop where
  | stop (pending : List Tree) : Rounds pending [] pending
  | round {init rest : List Tree} {t : Tree} {log : List (Tree × Tree)}
      (more : Rounds (init ++ t.detach.2) log rest) :
      Rounds (init ++ [t]) ((t, t.detach.1) :: log) rest

variable {pending rest : List Tree} {log : List (Tree × Tree)}

/-- The loop runs until nothing is pending. -/
theorem rounds_dismantleAll (pending : List Tree) : Rounds pending (dismantleAll pending) [] := by
  fun_induction dismantleAll pending with
  | case1 pending hlast =>
      rw [List.getLast?_eq_none_iff.1 hlast]
      exact .stop []
  | case2 pending t hlast ih =>
      obtain ⟨init, rfl⟩ := List.getLast?_eq_some_iff.1 hlast
      rw [List.dropLast_concat] at ih ⊢
      exact .round ih

/-- Wherever it is interrupted, the loop is on its way to the same end. -/
theorem Rounds.dismantleAll_eq (h : Rounds pending log rest) :
    dismantleAll pending = log ++ dismantleAll rest := by
  induction h with
  | stop pending => rfl
  | round _ ih => rw [dismantleAll_concat, ih, List.cons_append]

/-- Every round takes one node off the pending trees. -/
theorem Rounds.length_add_sizes (h : Rounds pending log rest) :
    log.length + sizes rest = sizes pending := by
  induction h with
  | stop pending => simp
  | @round init rest t log _ ih =>
      have hsize := size_eq_succ_children t
      simp only [sizes_append, detach_snd, List.length_cons, sizes_cons, sizes_nil] at ih ⊢
      omega

theorem Rounds.snd_eq_detach (h : Rounds pending log rest) :
    ∀ taken ∈ log, taken.2 = taken.1.detach.1 := by
  induction h with
  | stop pending => simp
  | round _ ih =>
      intro taken hmem
      rcases List.mem_cons.1 hmem with rfl | hmem
      · rfl
      · exact ih taken hmem

/-- The trees taken on the way stand at places of their own, and with the trees that are pending in
the end they make up those that were pending at first. -/
theorem Rounds.exists_taken (h : Rounds pending log rest) {places : List (List Nat)}
    (hs : Standing t places pending) :
    ∃ taken left : List (List Nat), Standing t left rest
      ∧ taken.map t.at? = log.map (fun node => some node.1)
      ∧ taken.Nodup
      ∧ (∀ p ∈ taken, ¬ Within left p)
      ∧ ∀ p, (t.at? p).isSome → (Within places p ↔ p ∈ taken ∨ Within left p) := by
  induction h generalizing places with
  | stop pending => exact ⟨[], places, hs, rfl, .nil, by simp, by simp⟩
  | @round init rest u log _ ih =>
      obtain ⟨before, place, rfl⟩ := hs.places_eq_concat
      obtain ⟨hu, hnext, hnew⟩ := hs.round
      obtain ⟨taken, left, hleft, hlog, hnodup, hapart, hcover⟩ := ih hnext
      -- The place that is taken now is in no tree that is pending from now on, so no later round
      -- takes it again.
      have hsome : (t.at? place).isSome := by rw [hu]; rfl
      rw [hcover place hsome, not_or] at hnew
      refine ⟨place :: taken, left, hleft, ?_, List.nodup_cons.2 ⟨hnew.1, hnodup⟩, ?_, ?_⟩
      · rw [List.map_cons, List.map_cons, hu, hlog]
      · intro p hp
        rcases List.mem_cons.1 hp with rfl | hp
        · exact hnew.2
        · exact hapart p hp
      · intro p hp
        have hhere : Within [place] p ↔ place <+: p := by simp [Within]
        rw [within_append, hhere, prefix_iff_within_placesBelow hu hp, or_left_comm,
          ← within_append, hcover p hp, List.mem_cons, or_assoc]

/-- The places below the root are those in the trees that are pending first. -/
theorem within_parts_iff (hp : (t.at? p).isSome) :
    Within (placesBelow [] t.children.length) p ↔ p ≠ [] := by
  constructor
  · rintro ⟨q, hq, hprefix⟩ rfl
    obtain ⟨i, -, rfl⟩ := mem_placesBelow.1 hq
    simp at hprefix
  · intro hne
    have hroot : t.at? [] = some t := rfl
    exact ((prefix_iff_within_placesBelow hroot hp).1 List.nil_prefix).resolve_left hne

/-- The loop takes the trees at the places below the root, each of them once. -/
theorem exists_places_dismantle (t : Tree) :
    ∃ places : List (List Nat), places.Nodup
      ∧ (∀ place, place ∈ places ↔ place ≠ [] ∧ (t.at? place).isSome)
      ∧ places.map t.at? = t.dismantle.2.map (fun taken => some taken.1) := by
  -- Moving the parts out of the root is a round like the others, with the root alone pending.
  have hroot : Standing t ([] ++ [[]]) ([] ++ [t]) := ⟨rfl, List.pairwise_singleton _ _⟩
  obtain ⟨-, hparts, -⟩ := hroot.round
  obtain ⟨places, left, hleft, hlog, hnodup, -, hcover⟩ :=
    (rounds_dismantleAll t.detach.2).exists_taken hparts
  obtain rfl : left = [] := List.map_eq_nil_iff.1 hleft.at_places
  refine ⟨places, hnodup, fun place => ⟨?_, ?_⟩, hlog⟩
  · intro hmem
    have hsome : (t.at? place).isSome := by
      obtain ⟨taken, -, htaken⟩ := List.mem_map.1 (hlog ▸ List.mem_map_of_mem hmem)
      rw [← htaken]
      rfl
    exact ⟨(within_parts_iff hsome).1 ((hcover place hsome).2 (.inl hmem)), hsome⟩
  · rintro ⟨hne, hsome⟩
    rcases (hcover place hsome).1 ((within_parts_iff hsome).2 hne) with hmem | ⟨_, hmem, _⟩
    · exact hmem
    · cases hmem

/-! ## What is left -/

def lists : Tree → List (List Tree)
  | file _ body => [body]
  | assignment targets values => [targets, values]
  | call _ arguments => [arguments]
  | other _ children => [children]
  | selector .. | identifier _ | stringLiteral _ => []

def boxed : Tree → List Tree
  | call function _ => [function]
  | selector operand _ => [operand]
  | file .. | assignment .. | identifier _ | stringLiteral _ | other .. => []

theorem children_eq_boxed_append (t : Tree) : t.children = t.boxed ++ t.lists.flatten := by
  cases t <;> simp [children, boxed, lists]

/-- Nothing is left in the lists of a tree, and at most the empty name outside of them. -/
structure Emptied (r : Tree) : Prop where
  lists : ∀ list ∈ r.lists, list = []
  boxed : r.boxed = [] ∨ r.boxed = [identifier ""]

theorem emptied_detach (t : Tree) : Emptied t.detach.1 := by
  cases t <;> constructor <;> simp [detach, Tree.lists, Tree.boxed, hollow]

variable {r : Tree}

theorem Emptied.children_eq (h : Emptied r) : r.children = [] ∨ r.children = [identifier ""] := by
  have hlists : r.lists.flatten = [] := List.flatten_eq_nil_iff.2 h.lists
  rw [children_eq_boxed_append, hlists, List.append_nil]
  exact h.boxed

theorem Emptied.eq_of_mem_children (h : Emptied r) {part : Tree} (hpart : part ∈ r.children) :
    part = identifier "" := by
  rcases h.children_eq with hr | hr <;> rw [hr] at hpart
  · cases hpart
  · exact List.mem_singleton.1 hpart

theorem Emptied.length_place_le (h : Emptied r) (hp : (r.at? p).isSome) : p.length ≤ 1 := by
  match p with
  | [] => simp
  | [i] => simp
  | i :: j :: below =>
      rw [at?] at hp
      cases hpart : r.children[i]? with
      | none =>
          rw [hpart] at hp
          cases hp
      | some part =>
          rw [hpart, h.eq_of_mem_children (List.mem_of_getElem? hpart)] at hp
          cases hp

/-! ## Destruction -/

/-- The destruction of a tree ends within a number of levels, one inside the other. It takes the tree
apart, and on the next level it destroys what is left of each tree that it took and, in the end, the
parts that are left in the tree itself. -/
def DestroyedWithin : Nat → Tree → Prop
  | 0, _ => False
  | levels + 1, t =>
    (∀ taken ∈ t.dismantle.2, DestroyedWithin levels taken.2)
    ∧ ∀ part ∈ t.dismantle.1.children, DestroyedWithin levels part

theorem destroyedWithin_identifier (name : String) : DestroyedWithin 1 (identifier name) := by
  constructor
  · intro taken hmem
    simp [dismantle, children] at hmem
  · intro part hmem
    cases hmem

/-- On the next level there is nothing but empty names. -/
theorem Emptied.destroyedWithin (h : Emptied r) : DestroyedWithin 2 r := by
  constructor
  · intro taken hmem
    rw [dismantle, detach_snd] at hmem
    rcases h.children_eq with hr | hr <;> rw [hr] at hmem
    · simp at hmem
    · rw [← List.nil_append [identifier ""], dismantleAll_concat] at hmem
      simp only [detach, List.append_nil, dismantleAll_nil, List.mem_singleton] at hmem
      rw [hmem]
      exact destroyedWithin_identifier ""
  · intro part hmem
    rw [(emptied_detach r).eq_of_mem_children hmem]
    exact destroyedWithin_identifier ""

theorem destroyedWithin_three (t : Tree) : DestroyedWithin 3 t := by
  constructor
  · intro taken hmem
    rw [(rounds_dismantleAll t.detach.2).snd_eq_detach taken hmem]
    exact (emptied_detach taken.1).destroyedWithin
  · intro part hmem
    rw [(emptied_detach t).eq_of_mem_children hmem]
    exact Emptied.destroyedWithin ⟨by simp [Tree.lists], .inl rfl⟩

/-- Taking a tree apart comes to its end: the loop runs until nothing is pending, and a run that is
interrupted has been through the first rounds of it, one for each node that is no longer pending. The
trees that it takes are those at the places below the root, each of which it takes once. In the root
and in every tree that it takes, moving the parts out leaves empty lists and at most one part outside
of them, the empty name. So no place in what is left is more than one step down, its destruction ends
within two levels, and that of the whole tree within three. -/
theorem dismantle_takes_each_once (t : Tree) :
    Rounds t.detach.2 t.dismantle.2 []
    ∧ (∀ log rest, Rounds t.detach.2 log rest →
        t.dismantle.2 = log ++ dismantleAll rest ∧ log.length + sizes rest + 1 = t.size)
    ∧ (∃ places : List (List Nat), places.Nodup
        ∧ (∀ place, place ∈ places ↔ place ≠ [] ∧ (t.at? place).isSome)
        ∧ places.map t.at? = t.dismantle.2.map (fun taken => some taken.1))
    ∧ (∀ taken ∈ (t, t.dismantle.1) :: t.dismantle.2,
        taken.2 = taken.1.detach.1 ∧ Emptied taken.2
        ∧ (∀ place, (taken.2.at? place).isSome → place.length ≤ 1) ∧ DestroyedWithin 2 taken.2)
    ∧ DestroyedWithin 3 t := by
  have hrun : Rounds t.detach.2 t.dismantle.2 [] := rounds_dismantleAll t.detach.2
  refine ⟨hrun, ?_, t.exists_places_dismantle, ?_, t.destroyedWithin_three⟩
  · intro log rest hlog
    have hsizes := hlog.length_add_sizes
    have hsize := size_eq_succ_children t
    rw [detach_snd] at hsizes
    exact ⟨hlog.dismantleAll_eq, by omega⟩
  · intro taken hmem
    have htaken : taken.2 = taken.1.detach.1 := by
      rcases List.mem_cons.1 hmem with rfl | hmem
      · rfl
      · exact hrun.snd_eq_detach taken hmem
    have hleft : Emptied taken.2 := htaken ▸ emptied_detach taken.1
    exact ⟨htaken, hleft, fun _ => hleft.length_place_le, hleft.destroyedWithin⟩

example :
    (call (selector (identifier "a") "f") [identifier "a", identifier "b"]).dismantle
      = (call (identifier "") [],
        [(identifier "b", identifier "b"), (identifier "a", identifier "a"),
          (selector (identifier "a") "f", selector (identifier "") "f"),
          (identifier "a", identifier "a")]) := by
  cbv

end GoAssets.Tree
