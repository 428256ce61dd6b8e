import DeclSynth.Proofs.Sealed.Invocation
import DeclSynth.Proofs.Syntax.Forms
import DeclSynth.Proofs.Token
import Mathlib.Data.List.Forall2

/-!
# Marks are taken away, and nothing else

A sealed module and one that could not be sealed lose the same marks: what an expansion
yields is the module that `withoutMarks` gives, with at most one block of code behind its
items (`expand_withoutMarks`). The first loses its marks item by item while its variants are
collected, the second all at once, and the two come to the same (`takeMarks_eq`).
-/

namespace DeclSynth

theorem itemList_append (items rest : List Item) :
    itemList (items ++ rest) = itemList items ++ itemList rest := by
  induction items with
  | nil => rfl
  | cons item items ih => simp only [List.cons_append, itemList, ih, List.append_assoc]

namespace Sealed

/-! ## Collecting variants -/

variable {declared : List Ident} {item : Item} {items : List Item}

theorem isSome_markedStruct?_struct {s : StructItem} :
    (markedStruct? (.struct s)).isSome = true ↔ Marked (.struct s) := by
  simp [markedStruct?, Marked, Item.attributes?]

/-- An item that can be collected is marked if it becomes a variant. -/
theorem isSome_markedStruct? {found : Option Variant}
    (h : (Variant.ofItem? declared item).result = .ok found) :
    (markedStruct? item).isSome = true ↔ Marked item := by
  cases item with
  | struct s => exact isSome_markedStruct?_struct
  | _ =>
    refine ⟨nofun, fun hmarked => absurd h ?_⟩
    -- a mark on anything but a struct is refused
    cases hmark : findAttribute Variant.mark (Item.attributes? _ |>.getD []) with
    | none => exact absurd hmarked (findAttribute_eq_none_iff.1 hmark)
    | some marker => simp [Variant.ofItem?, hmark, Outcome.result_bind_eq_ok]

/-- **Where variants are collected, the marked items are structs.** -/
theorem markedStructs_eq_nil_iff {variants : List Variant}
    (h : (Variant.collect declared items).result = .ok variants) :
    markedStructs items = [] ↔ ∀ it ∈ items, ¬ Marked it := by
  induction items generalizing variants with
  | nil => simp [markedStructs]
  | cons item rest ih =>
    simp only [Variant.collect, Outcome.result_bind_eq_ok] at h
    obtain ⟨found, hfound, others, hothers, -⟩ := h
    rw [List.forall_mem_cons, ← ih hothers, ← isSome_markedStruct? hfound]
    unfold markedStructs
    rw [List.filterMap_cons]
    cases markedStruct? item with
    | none => simp
    | some s => simp

/-! ## Modules without marks -/

/-- A module without the marks of its items. -/
def stripped : Item → Item
  | .mod attributes vis unsafeWord name content =>
    .mod attributes vis unsafeWord name (content.map (·.map unmarked))
  | item => item

theorem withoutMarks_of_module {ts : Tokens} {m : Item} (h : Item.parseModule ts = .ok m) :
    withoutMarks ts = (stripped m).tokens := by
  obtain ⟨attributes, vis, unsafeWord, name, content, rfl⟩ := Parser.of_parseWith h
    (Parser.yields_bind_any fun _ => Grammar.yields_modItem_mod)
  rw [withoutMarks, h, stripped]

theorem withoutMarks_of_error {ts : Tokens} {e : SyntaxError} (h : Item.parseModule ts = .error e) :
    withoutMarks ts = ts := by
  rw [withoutMarks, h]

/-- The path of an attribute, as it is spelled. -/
def spelling (a : Attribute) : Bool × List String := (a.leadingColon, a.path.map (·.text))

/-- The paths of the attributes of the items of a module, item by item. -/
def itemSpellings : Item → List (List (Bool × List String))
  | .mod _ _ _ _ content => (content.getD []).map fun it => (it.attributes?.getD []).map spelling
  | _ => []

/-- What a module prints is read as a module that prints the same, and whose items carry attributes
of the same paths: the two differ in their places at most. -/
def ReadsBack (m : Item) : Prop :=
  ∃ m', Item.parseModule m.tokens = .ok m' ∧ m'.tokens = m.tokens ∧
    itemSpellings m' = itemSpellings m

theorem isMark_iff {a : Attribute} : isMark a = true ↔ spelling a = (false, [Variant.mark]) := by
  unfold isMark Attribute.isNamed spelling
  rcases a.path with _ | ⟨i, _ | ⟨j, rest⟩⟩ <;> simp

theorem marked_iff {item : Item} :
    Marked item ↔ (false, [Variant.mark]) ∈ (item.attributes?.getD []).map spelling := by
  cases has : item.attributes? with
  | none => simp [Marked, has]
  | some as => simp [Marked, has, isMark_iff, List.mem_map]

/-- A module none of whose items is marked stays as it is. -/
theorem stripped_of_not_mem {m : Item}
    (h : ∀ spellings ∈ itemSpellings m, (false, [Variant.mark]) ∉ spellings) : stripped m = m := by
  cases m with
  | mod attributes vis unsafeWord name content =>
    cases content with
    | none => rfl
    | some items =>
      have hitems : items.map unmarked = items := by
        refine (List.map_congr_left fun it hit => ?_).trans items.map_id
        refine unmarked_of_not_marked fun hmarked => ?_
        exact h _ (List.mem_map_of_mem hit) (marked_iff.1 hmarked)
      rw [stripped, Option.map_some, hitems]
  | _ => rfl

theorem not_mem_itemSpellings_stripped {m : Item} :
    ∀ spellings ∈ itemSpellings (stripped m), (false, [Variant.mark]) ∉ spellings := by
  cases m with
  | mod attributes vis unsafeWord name content =>
    cases content with
    | none => nofun
    | some items =>
      intro spellings hspellings hmark
      obtain ⟨it, hit, rfl⟩ := List.mem_map.1 hspellings
      obtain ⟨before, -, rfl⟩ := List.mem_map.1 hit
      exact not_marked_unmarked before (marked_iff.2 hmark)
  | _ => nofun

/-- **Marks are taken away once and for all.** -/
theorem withoutMarks_withoutMarks {ts : Tokens} {m : Item} (h : Item.parseModule ts = .ok m)
    (hback : ReadsBack (stripped m)) : withoutMarks (withoutMarks ts) = withoutMarks ts := by
  obtain ⟨m', hparse, htokens, hspellings⟩ := hback
  have hnone : stripped m' = m' := by
    refine stripped_of_not_mem ?_
    rw [hspellings]
    exact not_mem_itemSpellings_stripped
  rw [withoutMarks_of_module h, withoutMarks_of_module hparse, hnone, htokens]

/-! ## Sealed modules -/

namespace Invocation

variable {args ts : Tokens}

/-- A module that is sealed is the one that loses its marks. -/
theorem withoutMarks_eq (m : Invocation args ts) : withoutMarks ts = m.withItems m.unmarked :=
  withoutMarks_of_module (parseModule_of_parse m.item_eq)

/-- What goes behind the items goes behind them in the braces. -/
theorem withItems_append (m : Invocation args ts) (items : List Item) :
    ∃ head inner, m.withItems items = head ++ brace inner ∧
      ∀ block, m.withItems (items ++ [.verbatim block]) = head ++ brace (inner ++ block) := by
  refine ⟨_, _, rfl, fun block => ?_⟩
  rw [withItems, Item.tokens, itemList_append]
  simp only [itemList, Item.tokens, List.append_nil, List.append_assoc]

end Invocation

/-- **A sealed module is the module without marks and a block of code.** Where an expansion yields
tokens, these are the tokens of the module that `withoutMarks` gives, with a block behind its items
if one of them was marked; each item is what it was but for its marks. Tokens that are no module
stay as they are, and a module that reads back loses its marks once and for all. -/
theorem expand_withoutMarks :
    (∀ (c : Config) (args item out : Tokens), (expand c args item).result = .ok out →
      ∃ (m : Invocation args item) (head inner block : Tokens),
        withoutMarks item = m.withItems m.unmarked ∧
        withoutMarks item = head ++ brace inner ∧ out = head ++ brace (inner ++ block) ∧
        ((block = [] ∧ ∀ it ∈ m.items, ¬ Marked it) ∨
          (out = m.withItems (m.unmarked ++ [.verbatim block]) ∧ ∃ it ∈ m.items, Marked it)) ∧
        List.Forall₂ (fun before after => ¬ Marked after ∧
          after.attributes? = before.attributes?.map (·.filter fun a => !isMark a) ∧
          after.mapAttributes (fun _ => before.attributes?.getD []) = before)
          m.items m.unmarked) ∧
    (∀ item : Tokens, (∀ m, Item.parseModule item ≠ .ok m) → withoutMarks item = item) ∧
    ∀ (item : Tokens) (m : Item), Item.parseModule item = .ok m → ReadsBack (stripped m) →
      withoutMarks (withoutMarks item) = withoutMarks item := by
  refine ⟨fun c args item out hout => ?_, fun item hnone => ?_,
    fun item m => withoutMarks_withoutMarks⟩
  · obtain ⟨m, items, hitems, rfl⟩ := exists_of_expand_eq_ok hout
    obtain ⟨-, hplain, hsealed⟩ := Invocation.sealedItems_eq_ok hitems
    obtain ⟨head, inner, hwithout, hblock⟩ := m.withItems_append m.unmarked
    have hmarked : markedStructs m.items = [] ↔ ∀ it ∈ m.items, ¬ Marked it :=
      markedStructs_eq_nil_iff (Invocation.collect_of_sealedItems_eq_ok hitems)
    have hitem : List.Forall₂ (fun before after => ¬ Marked after ∧
        after.attributes? = before.attributes?.map (·.filter fun a => !isMark a) ∧
        after.mapAttributes (fun _ => before.attributes?.getD []) = before) m.items m.unmarked := by
      refine List.forall₂_map_right_iff.2 (List.forall₂_same.2 fun it _ => ?_)
      exact ⟨not_marked_unmarked it, Item.attributes?_mapAttributes, mapAttributes_unmarked it⟩
    by_cases hnone : markedStructs m.items = []
    · refine ⟨m, head, inner, [], m.withoutMarks_eq, m.withoutMarks_eq.trans hwithout, ?_,
        .inl ⟨rfl, hmarked.1 hnone⟩, hitem⟩
      rw [hplain hnone, hwithout, List.append_nil]
    · obtain ⟨h, -, rfl⟩ := hsealed hnone
      refine ⟨m, head, inner, h.tokens, m.withoutMarks_eq, m.withoutMarks_eq.trans hwithout,
        hblock h.tokens, .inr ⟨rfl, ?_⟩, hitem⟩
      simpa using mt hmarked.2 hnone
  · cases hparse : Item.parseModule item with
    | ok m => exact absurd hparse (hnone m)
    | error e => exact withoutMarks_of_error hparse

/-- `mod shape { #[variant] #[non_exhaustive] #[variant(Round)] struct Circle(u8); fn area() {} }`,
where one variant is marked twice. -/
def twiceMarked : Tokens :=
  kw "mod" ++ kw "shape" ++ brace (
    op "#" ++ bracket (kw "variant") ++ op "#" ++ bracket (kw "non_exhaustive") ++
      op "#" ++ bracket (kw "variant" ++ paren (kw "Round")) ++
      kw "struct" ++ kw "Circle" ++ paren (kw "u8") ++ op ";" ++
    kw "fn" ++ kw "area" ++ paren [] ++ brace [])

/-- `roles = [Round]` -/
def roundRole : Tokens := kw "roles" ++ op "=" ++ bracket (kw "Round")

/-- Whether the module that tokens are reads back without its marks. -/
def readsBack (ts : Tokens) : Bool :=
  (Item.parseModule ts).toOption.any fun m =>
    (Item.parseModule (stripped m).tokens).toOption.any fun m' =>
      decide (m'.tokens = (stripped m).tokens) &&
        decide (itemSpellings m' = itemSpellings (stripped m))

theorem readsBack_iff {ts : Tokens} {m : Item} (h : Item.parseModule ts = .ok m) :
    readsBack ts = true ↔ ReadsBack (stripped m) := by
  unfold readsBack ReadsBack
  rw [h]
  simp only [Except.toOption, Option.any_some]
  cases Item.parseModule (stripped m).tokens <;> simp

/-- A struct that is marked twice loses both marks, and its module gets a block of code. -/
theorem expand_withoutMarks_twice :
    ∃ head inner block : Tokens,
      withoutMarks twiceMarked = head ++ brace inner ∧
      (expand .default roundRole twiceMarked).result = .ok (head ++ brace (inner ++ block)) ∧
      block ≠ [] ∧ withoutMarks (withoutMarks twiceMarked) = withoutMarks twiceMarked ∧
      withoutMarks roundRole = roundRole := by
  obtain ⟨out, hout⟩ := exists_eq_ok_of_isOk
    (x := (expand .default roundRole twiceMarked).result) (by decide +kernel)
  obtain ⟨hsealed, hother, htwice⟩ := expand_withoutMarks
  obtain ⟨m, head, inner, block, -, hwithout, rfl, -, -⟩ :=
    hsealed .default roundRole twiceMarked out hout
  have hmodule := parseModule_of_parse m.item_eq
  have hback := (readsBack_iff hmodule).1 (by decide +kernel)
  refine ⟨head, inner, block, hwithout, hout, ?_, htwice twiceMarked _ hmodule hback,
    hother roundRole ?_⟩
  · rintro rfl
    have hblock : (expand .default roundRole twiceMarked).result.toOption ≠
        some (withoutMarks twiceMarked) := by decide +kernel
    rw [hout, hwithout, List.append_nil] at hblock
    exact hblock rfl
  · intro other hparse
    have hfails : (Item.parseModule roundRole).isOk = false := by decide +kernel
    rw [hparse] at hfails
    cases hfails

end Sealed

end DeclSynth
