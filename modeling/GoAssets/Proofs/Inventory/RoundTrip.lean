import GoAssets.Inventory.Json
import GoAssets.Proofs.Json.RoundTrip

/-!
# Written inventories read back

Reading the text of an inventory gives the inventory back: the same bundles in the same order, with
the same texts in every field and the group of an asset present or absent as it was. The records are
written without numbers, so the text reads back as the value it was written from
(`Json.parse_render`); what remains is that each record reads back from its value.
-/

namespace GoAssets

open Json (Value NumberFree)

/-! ## Lists of records -/

/-- If every record reads back, a list of them does. -/
theorem mapM_map_eq_some {α β : Type} {write : α → β} {read : β → Option α}
    (h : ∀ a, read (write a) = some a) (as : List α) : (as.map write).mapM read = some as := by
  induction as with
  | nil => rfl
  | cons a as ih =>
      rw [List.map_cons, List.mapM_cons, h, ih]
      rfl

theorem numberFree_array_map {α : Type} {write : α → Value} (h : ∀ a, NumberFree (write a))
    (as : List α) : NumberFree (.array (as.map write)) := by
  refine .array ?_
  intro v hv
  obtain ⟨a, -, rfl⟩ := List.mem_map.1 hv
  exact h a

theorem numberFree_ofFields {fields : List (String × Value)} (h : ∀ f ∈ fields, NumberFree f.2) :
    NumberFree (.ofFields fields) := by
  refine .object ?_
  intro m hm
  obtain ⟨f, hf, rfl⟩ := List.mem_map.1 hm
  exact h f hf

/-! ## Groups -/

theorem Group.numberFree_toJson (g : Group) : NumberFree g.toJson := by
  refine numberFree_ofFields ?_
  simp only [List.forall_mem_cons]
  exact ⟨.string _, .string _, .string _, List.forall_mem_nil _⟩

theorem Group.ofJson_toJson (g : Group) : Group.ofJson? g.toJson = some g := by
  rfl

/-! ## Assets -/

/-- A group is written as an object, so it is never taken for an absent one. -/
theorem Asset.groupOfJson_toJson (group : Option Group) :
    Asset.groupOfJson? (some ((group.map Group.toJson).getD .null)) = some group := by
  cases group with
  | none => rfl
  | some g =>
      show (Group.ofJson? g.toJson).map some = _
      rw [Group.ofJson_toJson]
      rfl

theorem Asset.numberFree_toJson (a : Asset) : NumberFree a.toJson := by
  refine numberFree_ofFields ?_
  simp only [List.forall_mem_cons]
  refine ⟨.string _, .string _, ?_, List.forall_mem_nil _⟩
  cases a.group with
  | none => exact .null
  | some g => exact g.numberFree_toJson

theorem Asset.ofJson_toJson (a : Asset) : Asset.ofJson? a.toJson = some a := by
  show (do return ⟨a.name, a.assetPath, ← Asset.groupOfJson? _⟩ : Option Asset) = _
  rw [Asset.groupOfJson_toJson]
  rfl

/-! ## Bundles -/

theorem Bundle.numberFree_toJson (b : Bundle) : NumberFree b.toJson := by
  refine numberFree_ofFields ?_
  simp only [List.forall_mem_cons]
  exact ⟨.string _, .string _, .string _, numberFree_array_map Asset.numberFree_toJson _,
    numberFree_array_map Group.numberFree_toJson _, List.forall_mem_nil _⟩

theorem Bundle.ofJson_toJson (b : Bundle) : Bundle.ofJson? b.toJson = some b := by
  show (do
    return { b with
      assets := ← (b.assets.map Asset.toJson).mapM Asset.ofJson?
      groups := ← (b.groups.map Group.toJson).mapM Group.ofJson? } : Option Bundle) = _
  rw [mapM_map_eq_some Asset.ofJson_toJson, mapM_map_eq_some Group.ofJson_toJson]
  rfl

/-! ## Inventories -/

/-- The text of an inventory reads back as the inventory: writing loses no bundle, asset or group,
changes no order and no text, and tells an asset without a group from one in a group. -/
theorem Inventory.toJson_roundTrip (inv : Inventory) : Inventory.ofJson? inv.toJson = some inv := by
  rw [Inventory.ofJson?, Inventory.toJson,
    Json.parse_render (numberFree_array_map Bundle.numberFree_toJson _)]
  show (do return ⟨← (inv.bundles.map Bundle.toJson).mapM Bundle.ofJson?⟩ : Option Inventory) = _
  rw [mapM_map_eq_some Bundle.ofJson_toJson]
  rfl

end GoAssets
