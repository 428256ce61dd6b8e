import DeclSynth.Expansion.Sealed.Variant
import DeclSynth.Proofs.Outcome

/-!
# Collecting variants

While the variants of a module are collected, an item loses its marks as it is looked at,
before the next one is. That comes to the same as collecting all variants first and then
taking the marks off every item (`takeMarks_eq`), since an item without marks is what it
was (`unmarked_of_not_marked`).
-/

namespace DeclSynth

namespace Item

variable {f g : List Attribute → List Attribute}

theorem attributes?_mapAttributes {item : Item} :
    (item.mapAttributes f).attributes? = item.attributes?.map f := by
  cases item <;> rfl

theorem mapAttributes_mapAttributes {item : Item} :
    (item.mapAttributes f).mapAttributes g = item.mapAttributes fun as => g (f as) := by
  cases item <;> rfl

/-- Only what is done to the attributes that an item has counts. -/
theorem mapAttributes_congr {item : Item} (h : ∀ as ∈ item.attributes?, f as = g as) :
    item.mapAttributes f = item.mapAttributes g := by
  cases item <;> simp_all [attributes?, mapAttributes]

theorem mapAttributes_id {item : Item} : item.mapAttributes id = item := by
  cases item <;> rfl

end Item

namespace Sealed

/-- Whether an attribute marks a variant. -/
def isMark (a : Attribute) : Bool := a.isNamed Variant.mark

/-! ## Items without marks -/

/-- Whether an item has a mark. -/
def Marked (item : Item) : Prop := ∃ as ∈ item.attributes?, ∃ a ∈ as, isMark a = true

theorem mem_stripAttribute {as : List Attribute} {a : Attribute} :
    a ∈ stripAttribute Variant.mark as ↔ a ∈ as ∧ isMark a = false := by
  simp [stripAttribute, isMark]

/-- **No mark is left on an item that carries attributes.** -/
theorem not_marked_unmarked (item : Item) : ¬ Marked (unmarked item) := by
  rintro ⟨as, has, a, ha, hmark⟩
  rw [unmarked, Item.attributes?_mapAttributes, Option.mem_def, Option.map_eq_some_iff] at has
  obtain ⟨before, -, rfl⟩ := has
  rw [(mem_stripAttribute.1 ha).2] at hmark
  cases hmark

/-- An item without marks stays as it is. -/
theorem unmarked_of_not_marked {item : Item} (h : ¬ Marked item) : unmarked item = item := by
  rw [unmarked, Item.mapAttributes_congr (g := id), Item.mapAttributes_id]
  intro as has
  refine List.filter_eq_self.2 fun a ha => ?_
  have hmark : isMark a = false := Bool.eq_false_iff.2 fun hmark => h ⟨as, has, a, ha, hmark⟩
  simpa [isMark] using hmark

/-- **Nothing but attributes is taken away**: with its attributes back an item is what it was. -/
theorem mapAttributes_unmarked (item : Item) :
    (unmarked item).mapAttributes (fun _ => item.attributes?.getD []) = item := by
  rw [unmarked, Item.mapAttributes_mapAttributes, Item.mapAttributes_congr (g := id),
    Item.mapAttributes_id]
  intro as has
  rw [has, Option.getD_some, id]

theorem findAttribute_eq_none_iff {item : Item} :
    findAttribute Variant.mark (item.attributes?.getD []) = none ↔ ¬ Marked item := by
  cases has : item.attributes? with
  | none => simp [findAttribute, Marked, has]
  | some as => simp [findAttribute, Marked, has, isMark]

/-- An item is left behind without any marks. -/
theorem leftBehind_eq (item : Item) : leftBehind item = unmarked item := by
  unfold leftBehind
  split
  · rename_i hnone
    exact (unmarked_of_not_marked (findAttribute_eq_none_iff.1 hnone)).symm
  · rfl

/-! ## One item after the other -/

/-- The variants among items, in order. -/
def Variant.collect (declared : List Ident) : List Item → Outcome (List Variant)
  | [] => return []
  | item :: rest => do
    let found ← ofItem? declared item
    return found.toList ++ (← collect declared rest)

/-- **Taking the marks item by item comes to the same as collecting first**: the same variants or
the same stop, with the same events, and the items without any marks. -/
theorem takeMarks_eq (declared : List Ident) (items : List Item) :
    takeMarks declared items = (do
      let variants ← Variant.collect declared items
      return (variants, items.map unmarked)) := by
  induction items with
  | nil => rfl
  | cons item rest ih =>
    rw [takeMarks, Variant.collect, leftBehind_eq, ih]
    simp only [Outcome.bind_assoc]
    rfl

end Sealed

end DeclSynth
