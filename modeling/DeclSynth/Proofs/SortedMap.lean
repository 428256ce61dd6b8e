import DeclSynth.SortedMap

/-!
# What a sorted map holds

`get?_insert` and `get?_erase` say what is found under every key after a write and
after a removal, and the keys of a map are those under which something is found,
in order and each once (`mem_keys`, `pairwise_keys`, `nodup_keys`).
-/

namespace DeclSynth.SortedMap

variable {κ α : Type} [Ord κ] {m : SortedMap κ α} {key k : κ} {value : α}

theorem pairwise_keys (m : SortedMap κ α) : m.keys.Pairwise fun a b => compare a b = .lt :=
  List.pairwise_map.2 m.sorted

section Lawful

variable [Std.LawfulEqOrd κ]

theorem mem_keys : k ∈ m.keys ↔ (m.get? k).isSome := by
  simp [keys, get?]

/-- **A removal takes the entry of its key away, and no other.** -/
theorem get?_erase [DecidableEq κ] :
    (m.erase key).get? k = if k = key then none else m.get? k := by
  rw [get?, erase, List.find?_filter]
  by_cases hk : k = key
  · simp [hk]
  · have hsame : ∀ e : κ × α,
        decide ((compare key e.1 != .eq) ∧ (compare k e.1 == .eq)) = (compare k e.1 == .eq) := by
      intro e
      by_cases he : k = e.1
      · simp [← he, Ne.symm hk]
      · simp [he]
    simp only [hsame, hk, if_false, get?]

theorem nodup_keys (m : SortedMap κ α) : m.keys.Nodup :=
  m.pairwise_keys.imp fun h => by
    rintro rfl
    simp at h

/-- Only the written entry shows after a write, wherever it is put among the others. -/
theorem find?_insertEntry [DecidableEq κ] {entries : List (κ × α)} :
    ((insertEntry key value entries).find? fun e => compare k e.1 == .eq) =
      if k = key then some (key, value) else entries.find? fun e => compare k e.1 == .eq := by
  induction entries with
  | nil => by_cases hk : k = key <;> simp [insertEntry, hk]
  | cons e rest ih =>
    unfold insertEntry
    split
    next => by_cases hk : k = key <;> simp [List.find?_cons, hk]
    next heq =>
      obtain rfl := Std.LawfulEqOrd.eq_of_compare heq
      by_cases hk : k = e.1 <;> simp [hk]
    next hgt =>
      rw [List.find?_cons, ih, List.find?_cons]
      by_cases hk : k = key <;> simp [hk, hgt]

/-- **A write replaces the entry of its key only.** -/
theorem get?_insert [Std.TransOrd κ] [DecidableEq κ] :
    (m.insert key value).get? k = if k = key then some value else m.get? k := by
  rw [get?, insert, find?_insertEntry]
  by_cases hk : k = key <;> simp [hk, get?]

/-! ## Maps made of entries -/

/-- A new key is put somewhere among the others. -/
theorem insertEntry_perm {entries : List (κ × α)} (h : ∀ e ∈ entries, key ≠ e.1) :
    (insertEntry key value entries).Perm ((key, value) :: entries) := by
  induction entries with
  | nil => exact .refl _
  | cons e rest ih =>
    unfold insertEntry
    split
    next => exact .refl _
    next heq => exact absurd (Std.LawfulEqOrd.eq_of_compare heq) (h e List.mem_cons_self)
    next => exact ((ih fun x hx => h x (List.mem_cons_of_mem _ hx)).cons e).trans (.swap _ _ _)

theorem foldl_insert_perm [Std.TransOrd κ] {l : List (κ × α)}
    (h : ((m.entries ++ l).map (·.1)).Nodup) :
    (l.foldl (fun m e => m.insert e.1 e.2) m).entries.Perm (m.entries ++ l) := by
  induction l generalizing m with
  | nil => simp
  | cons e l ih =>
    have hmoved : (m.entries ++ e :: l).Perm (e :: m.entries ++ l) := List.perm_middle
    have hnodup : (e.1 :: (m.entries ++ l).map (·.1)).Nodup := (hmoved.map _).nodup_iff.1 h
    have hnew : ∀ x ∈ m.entries, e.1 ≠ x.1 := by
      intro x hx heq
      refine (List.nodup_cons.1 hnodup).1 (List.mem_map.2 ⟨x, List.mem_append_left _ hx, heq.symm⟩)
    have hput : ((m.insert e.1 e.2).entries ++ l).Perm (e :: m.entries ++ l) :=
      (insertEntry_perm hnew).append_right l
    rw [List.foldl_cons]
    exact (ih ((hput.map _).nodup_iff.2 hnodup)).trans (hput.trans hmoved.symm)

/-- **Entries with different keys are all in the map that they make.** -/
theorem ofList_perm [Std.TransOrd κ] {l : List (κ × α)}
    (h : (l.map (·.1)).Nodup) : (ofList l).entries.Perm l :=
  foldl_insert_perm (m := empty) h

/-- **A map is made of its entries, in whatever order they come.** -/
theorem ofList_eq_of_perm [Std.TransOrd κ] {l : List (κ × α)}
    (h : l.Perm m.entries) : ofList l = m := by
  have hnodup : (l.map (·.1)).Nodup := (h.map _).nodup_iff.2 m.nodup_keys
  obtain ⟨entries, sorted⟩ := m
  have heq : (ofList l).entries = entries := by
    refine ((ofList_perm hnodup).trans h).eq_of_pairwise ?_ (ofList l).sorted sorted
    intro a b _ _ hab hba
    exact absurd (Std.OrientedCmp.gt_of_lt hab) (by simp [hba])
  cases hm : ofList l
  rw [hm] at heq
  subst heq
  rfl

end Lawful

end DeclSynth.SortedMap
