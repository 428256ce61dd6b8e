import DeclSynth.Proofs.StoredFields.Comparison
import Mathlib.Data.List.Forall2

/-!
# The two lists of fields

The fields of a struct are gone over twice, once for those that hold state and once for
those that belong to the type. An entry of either list is bound and addressed by the
field's place in the whole declaration, not by its place in the list (`IsAt`). So no
field is lost or taken twice: merged by their places, the two lists are the declaration
again, and they bind fields to different names where the declared names are different
(`partition_stored_typeLevel`).
-/

namespace DeclSynth

/-! ## Entries at their places -/

/-- An entry is that of the field at a place: a field with a name is bound to it and addressed by
it, any other is bound to `field_` with the place behind it and addressed by the place. -/
structure BoundField.IsAt (b : BoundField) (fs : Fields) (place : Nat) : Prop where
  field : fs.toList[place]? = some b.field
  named : ∀ name, b.field.name = some name → b.binding = name ∧ b.member = .named name
  nameless : b.field.name = none →
    b.binding.text = "field_" ++ toString place ∧ b.member = .index place

/-- How names are told apart: as they are written, or without the mark of a raw name. -/
def Spelling (spelled : Ident → String) : Prop := spelled = Ident.text ∨ spelled = Ident.plainText

namespace Fields

/-- Entries of the fields at some places, in declaration order. -/
structure Lists (fs : Fields) (places : List Nat) (entries : List BoundField) : Prop where
  ascending : places.Pairwise (· < ·)
  isAt : List.Forall₂ (fun place b => b.IsAt fs place) places entries

/-- The names that are declared. -/
def names (fs : Fields) : List Ident := fs.toList.filterMap (·.name)

/-- What the fields of both lists are bound to. -/
def bindings (fs : Fields) : List Ident := (fs.stored ++ fs.typeLevel).map (·.binding)

/-- No declared name is what a field without a name is bound to. -/
def Apart (fs : Fields) (spelled : Ident → String) : Prop :=
  ∀ name ∈ fs.names, ∀ (i : Nat) (f : Field), fs.toList[i]? = some f → f.name = none →
    spelled name ≠ "field_" ++ toString i

/-- The fields are in two lists, those that hold state at the places `is` and those that belong to
the type at the places `js`. -/
structure Partition (fs : Fields) (is js : List Nat) : Prop where
  stored : fs.Lists is fs.stored
  typeLevel : fs.Lists js fs.typeLevel
  /-- Each field is in one of the lists, and in that one alone. -/
  once : ∀ i < fs.toList.length, (i ∈ is ↔ i ∉ js)
  /-- Merged by their places, the lists are the declaration, with each field at its own place. -/
  merged : ((is.zip fs.stored).merge (js.zip fs.typeLevel) fun a b => a.1 ≤ b.1).map
    (fun e => (e.2.field, e.1)) = fs.toList.zipIdx
  /-- Where different names are declared, different names are bound. -/
  distinct : fs.LaidOut → ∀ spelled, Spelling spelled →
    (fs.names.map spelled).Nodup → (fs.bindings.map spelled).Nodup
  /-- In any layout, the bindings differ exactly if the declared names do and none of these is what
  a field without a name is bound to. -/
  distinct_iff : ∀ spelled, Spelling spelled →
    ((fs.bindings.map spelled).Nodup ↔ (fs.names.map spelled).Nodup ∧ fs.Apart spelled)
  /-- A struct holds state exactly if the first list is not empty. -/
  reported : ∀ s : StructItem, s.fields = fs → ∀ supertype,
    ((s.facts supertype).hasStored = true ↔ fs.stored ≠ [])

end Fields

theorem text_positionalBinding (i : Nat) : (positionalBinding i).text = "field_" ++ toString i :=
  String.ofList_append

theorem Spelling.positionalBinding {spelled : Ident → String} (h : Spelling spelled) (i : Nat) :
    spelled (positionalBinding i) = "field_" ++ toString i := by
  rcases h with rfl | rfl
  · exact text_positionalBinding i
  · have hraw : Ident.dropRaw ("field_" ++ toString i) = "field_" ++ toString i :=
      Ident.dropRaw_append String.toList_ofList (by decide : 'f' ≠ 'r') _
    rw [Ident.plainText, text_positionalBinding, hraw]

/-- The entry that is made for a field is the one at its place. -/
theorem BoundField.isAt_at {fs : Fields} {i : Nat} {f : Field} (h : fs.toList[i]? = some f) :
    (BoundField.at i f).IsAt fs i := by
  refine ⟨by rw [field_at, h], fun name hname => ?_, fun hname => ?_⟩
  · rw [field_at] at hname
    rw [at_of_named hname]
    exact ⟨rfl, rfl⟩
  · rw [field_at] at hname
    unfold BoundField.at
    rw [hname]
    exact ⟨text_positionalBinding i, rfl⟩

/-! ## Merging -/

section Merge

variable {α : Type}

/-- The places of a list are in ascending order. -/
theorem pairwise_zipIdx (l : List α) : l.zipIdx.Pairwise (·.2 < ·.2) := by
  have hplaces : (l.zipIdx.map Prod.snd).Pairwise (· < ·) := by
    rw [List.zipIdx_map_snd]
    exact List.pairwise_lt_range'
  exact List.pairwise_map.1 hplaces

/-- **What is kept of a list and what is left of it are merged to the list**, if keys tell the order
of its elements. -/
theorem merge_filter {key : α → Nat} {l : List α} (h : l.Pairwise (key · < key ·)) (p : α → Bool) :
    ((l.filter p).merge (l.filter (!p ·)) fun a b => key a ≤ key b) = l := by
  have hsorted : l.Pairwise fun a b => decide (key a ≤ key b) = true :=
    h.imp fun hlt => decide_eq_true hlt.le
  have hperm := (List.merge_perm_append fun a b => decide (key a ≤ key b)).trans
    (List.filter_append_perm p l)
  refine hperm.eq_of_pairwise (fun a b ha hb hab hba => ?_) ?_ hsorted
  · -- the keys of two elements are the same only if the elements are
    have hkeys : (l.map key).Nodup := (List.pairwise_map.2 h).imp fun hlt => hlt.ne
    exact List.inj_on_of_nodup_map hkeys (hperm.mem_iff.1 ha) hb
      (le_antisymm (of_decide_eq_true hab) (of_decide_eq_true hba))
  · refine List.pairwise_merge (fun a b c hab hbc => ?_) (fun a b => ?_) _ _
      (hsorted.filter _) (hsorted.filter _)
    · exact decide_eq_true ((of_decide_eq_true hab).trans (of_decide_eq_true hbc))
    · rw [Bool.or_eq_true, decide_eq_true_eq, decide_eq_true_eq]
      exact le_total _ _

end Merge

namespace Fields

variable {fs : Fields} {spelled : Ident → String}

/-! ## What is kept -/

/-- All entries with their places. -/
def placed (fs : Fields) : List (Nat × BoundField) :=
  fs.toList.zipIdx.map fun x => (x.2, .at x.2 x.1)

theorem pairwise_placed (fs : Fields) : fs.placed.Pairwise (·.1 < ·.1) :=
  List.pairwise_map.2 (pairwise_zipIdx fs.toList)

theorem isAt_of_mem_placed {e : Nat × BoundField} (h : e ∈ fs.placed) : e.2.IsAt fs e.1 := by
  obtain ⟨x, hx, rfl⟩ := List.mem_map.1 h
  exact BoundField.isAt_at (List.mem_zipIdx_iff_getElem?.1 hx)

theorem map_placed (fs : Fields) :
    fs.placed.map (fun e => (e.2.field, e.1)) = fs.toList.zipIdx := by
  rw [placed, List.map_map]
  refine (List.map_congr_left fun x _ => ?_).trans (List.map_id _)
  rw [Function.comp_apply, BoundField.field_at]
  rfl

/-- The entries of the fields that are kept. -/
theorem filter_bound (fs : Fields) (p : Field → Bool) :
    fs.bound.filter (p ·.field) = (fs.placed.filter (p ·.2.field)).map (·.2) := by
  have hbound : fs.bound = fs.placed.map (·.2) := by
    rw [placed, List.map_map]
    rfl
  rw [hbound, List.filter_map]
  rfl

/-- The places of the fields that are kept. -/
theorem findIdxs_eq (fs : Fields) (p : Field → Bool) :
    fs.toList.findIdxs p = (fs.placed.filter (p ·.2.field)).map (·.1) := by
  rw [List.findIdxs_eq_filterMap_zipIdx, ← map_placed, List.filterMap_map, ← List.filterMap_eq_map,
    List.filterMap_filter]
  refine List.filterMap_congr fun e _ => ?_
  rw [Function.comp_apply]
  cases p e.2.field <;> rfl

/-- What is kept of the entries are those of the fields that are kept, each at its own place. -/
theorem lists_filter (fs : Fields) (p : Field → Bool) :
    fs.Lists (fs.toList.findIdxs p) (fs.bound.filter (p ·.field)) := by
  refine ⟨List.pairwise_findIdxs, ?_⟩
  rw [findIdxs_eq, filter_bound, List.forall₂_map_left_iff, List.forall₂_map_right_iff,
    List.forall₂_same]
  intro e he
  exact isAt_of_mem_placed (List.mem_filter.1 he).1

theorem zip_filter (fs : Fields) (p : Field → Bool) :
    (fs.toList.findIdxs p).zip (fs.bound.filter (p ·.field)) = fs.placed.filter (p ·.2.field) := by
  rw [findIdxs_eq, filter_bound, List.zip_map']
  exact List.map_id _

/-- **Merged by their places, what is kept and what is left are the declaration.** -/
theorem merge_zip_filter (fs : Fields) (p : Field → Bool) :
    (((fs.toList.findIdxs p).zip (fs.bound.filter (p ·.field))).merge
        ((fs.toList.findIdxs (!p ·)).zip (fs.bound.filter (!p ·.field))) fun a b => a.1 ≤ b.1).map
      (fun e => (e.2.field, e.1)) = fs.toList.zipIdx := by
  have hleft := zip_filter fs (!p ·)
  rw [zip_filter, hleft, merge_filter fs.pairwise_placed fun e => p e.2.field, map_placed]

/-! ## What fields are bound to -/

theorem bindings_perm (fs : Fields) : fs.bindings.Perm (fs.bound.map (·.binding)) :=
  fs.stored_append_typeLevel_perm.map _

/-- How a field's binding is spelled: as its name is, or as its place. -/
theorem spelled_binding_at (h : Spelling spelled) (i : Nat) (f : Field) :
    spelled (BoundField.at i f).binding = f.name.elim ("field_" ++ toString i) spelled := by
  unfold BoundField.at
  cases f.name with
  | some name => rfl
  | none => exact h.positionalBinding i

theorem map_names (fs : Fields) (spelled : Ident → String) :
    fs.names.map spelled = (fs.toList.zipIdx.filter (·.1.name.isSome)).map
      fun x => x.1.name.elim ("field_" ++ toString x.2) spelled := by
  rw [names, ← List.zipIdx_map_fst 0 fs.toList, List.filterMap_map, List.map_filterMap,
    List.zipIdx_map_fst, ← List.filterMap_eq_map, List.filterMap_filter]
  refine List.filterMap_congr fun x _ => ?_
  rw [Function.comp_apply, Function.comp_apply]
  cases x.1.name <;> rfl

/-- Places are spelled in different ways. -/
theorem nodup_places (fs : Fields) (spelled : Ident → String) :
    ((fs.toList.zipIdx.filter (!·.1.name.isSome)).map
      fun x => x.1.name.elim ("field_" ++ toString x.2) spelled).Nodup := by
  refine List.pairwise_map.2 <| ((pairwise_zipIdx fs.toList).filter _).imp_of_mem ?_
  intro x y hx hy hlt hsame
  have hnone {z : Field × Nat} (hz : z ∈ fs.toList.zipIdx.filter (!·.1.name.isSome)) :
      z.1.name = none := by
    simpa using (List.mem_filter.1 hz).2
  rw [hnone hx, hnone hy, Option.elim_none, Option.elim_none, ← text_positionalBinding,
    ← text_positionalBinding] at hsame
  exact hlt.ne (positionalBinding_inj hsame)

/-- **Fields are bound to different names** exactly if the declared names are different and none of
them is what a field without a name is bound to. -/
theorem nodup_bindings_iff (h : Spelling spelled) :
    (fs.bindings.map spelled).Nodup ↔ (fs.names.map spelled).Nodup ∧ fs.Apart spelled := by
  have hbound : (fs.bound.map (·.binding)).map spelled =
      fs.toList.zipIdx.map fun x => x.1.name.elim ("field_" ++ toString x.2) spelled := by
    rw [bound, List.map_map, List.map_map]
    exact List.map_congr_left fun x _ => spelled_binding_at h x.2 x.1
  rw [(fs.bindings_perm.map spelled).nodup_iff, hbound,
    ← ((List.filter_append_perm (·.1.name.isSome) fs.toList.zipIdx).map _).nodup_iff,
    List.map_append, List.nodup_append, ← map_names, and_congr_right_iff]
  intro _
  constructor
  · intro hplaces name hname i f hf hnone
    have hmem : (f, i) ∈ fs.toList.zipIdx.filter (!·.1.name.isSome) :=
      List.mem_filter.2 ⟨List.mk_mem_zipIdx_iff_getElem?.2 hf, by rw [hnone]; rfl⟩
    have hne := hplaces.2 _ (List.mem_map_of_mem hname) _ (List.mem_map_of_mem hmem)
    rwa [hnone] at hne
  · intro hapart
    refine ⟨nodup_places fs spelled, fun a ha b hb => ?_⟩
    obtain ⟨name, hname, rfl⟩ := List.mem_map.1 ha
    obtain ⟨x, hx, rfl⟩ := List.mem_map.1 hb
    obtain ⟨hmem, hnone⟩ := List.mem_filter.1 hx
    rw [Bool.not_eq_true', Option.isSome_eq_false_iff, Option.isNone_iff_eq_none] at hnone
    rw [hnone]
    exact hapart name hname x.2 x.1 (List.mem_zipIdx_iff_getElem?.1 hmem) hnone

/-- Where fields are laid out, names and places do not stand side by side. -/
theorem LaidOut.apart (h : fs.LaidOut) (spelled : Ident → String) : fs.Apart spelled := by
  intro name hname i f hf hnone
  obtain ⟨g, hg, hsome⟩ := List.mem_filterMap.1 hname
  cases hshape : fs.shape with
  | named =>
    have hname' := h.named hshape f (List.mem_of_getElem? hf)
    rw [hnone] at hname'
    cases hname'
  | unnamed => cases (h.unnamed hshape g hg).symm.trans hsome
  | unit =>
    cases fs with
    | unit => cases hg
    | named | positional => cases hshape

/-! ## The partition -/

/-- **Fields are parted by what they contribute to their type.** -/
theorem partition_stored_typeLevel (fs : Fields) :
    fs.Partition (fs.toList.findIdxs (·.facts.stored))
      (fs.toList.findIdxs (·.facts.typeLevel)) where
  stored := lists_filter fs (·.facts.stored)
  typeLevel := lists_filter fs (·.facts.typeLevel)
  once i hi := by
    rw [List.mem_findIdxs_iff_pos_getElem hi, List.mem_findIdxs_iff_pos_getElem hi]
    change fs.toList[i].isStored = true ↔ ¬ (!fs.toList[i].isStored) = true
    cases fs.toList[i].isStored <;> decide
  merged := merge_zip_filter fs (·.facts.stored)
  distinct hfs spelled h hnames := (nodup_bindings_iff h).2 ⟨hnames, hfs.apart spelled⟩
  distinct_iff _ h := nodup_bindings_iff h
  reported s hs supertype := by
    have hfacts : (s.facts supertype).hasStored = !s.storedFields.isEmpty := s.hasStored_eq
    rw [hfacts, ← s.map_field_stored, hs]
    simp

/-- A marker in front moves no field from its place, and a marker between two fields with names
leaves three names that differ. -/
theorem partition_stored_typeLevel_marked : ∃ s t,
    Item.parse Equality.markedSample = .ok (.struct s) ∧ s.fields.Partition [1, 2] [0] ∧
      s.fields.stored.map (fun b => (b.binding.text, b.member)) =
        [("field_1", .index 1), ("field_2", .index 2)] ∧
      s.fields.typeLevel.map (fun b => (b.binding.text, b.member)) = [("field_0", .index 0)] ∧
      Item.parse mixedSample = .ok (.struct t) ∧ t.fields.Partition [0, 2] [1] ∧
      t.fields.LaidOut ∧ t.fields.names.map Ident.text = ["first", "mark", "second"] ∧
      (t.fields.bindings.map Ident.text).Nodup := by
  have hsample : (structOf? Equality.markedSample).any (fun s =>
      s.fields.toList.findIdxs (·.facts.stored) == [1, 2] &&
      s.fields.toList.findIdxs (·.facts.typeLevel) == [0] &&
      s.fields.stored.map (fun b => (b.binding.text, b.member)) ==
        [("field_1", .index 1), ("field_2", .index 2)] &&
      s.fields.typeLevel.map (fun b => (b.binding.text, b.member)) == [("field_0", .index 0)] &&
      (structOf? mixedSample).any fun t =>
        t.fields.toList.findIdxs (·.facts.stored) == [0, 2] &&
        t.fields.toList.findIdxs (·.facts.typeLevel) == [1] &&
        t.fields.names.map Ident.text == ["first", "mark", "second"]) = true := by
    decide +kernel
  simp only [Option.any_eq_true, Bool.and_eq_true, beq_iff_eq] at hsample
  obtain ⟨s, hs, ⟨⟨⟨his, hjs⟩, hstored⟩, htypeLevel⟩, t, ht, ⟨hit, hjt⟩, hnames⟩ := hsample
  have hlaidOut := laidOut_of_parse (parse_eq_of_structOf? ht)
  have hpartition := partition_stored_typeLevel s.fields
  have hpartition' := partition_stored_typeLevel t.fields
  rw [his, hjs] at hpartition
  rw [hit, hjt] at hpartition'
  have hdistinct : (t.fields.names.map Ident.text).Nodup := by
    rw [hnames]
    decide
  exact ⟨s, t, parse_eq_of_structOf? hs, hpartition, hstored, htypeLevel, parse_eq_of_structOf? ht,
    hpartition', hlaidOut, hnames, hpartition'.distinct hlaidOut _ (.inl rfl) hdistinct⟩

end Fields

end DeclSynth
