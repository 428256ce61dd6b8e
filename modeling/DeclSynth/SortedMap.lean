/-!
# Sorted maps

A map keeps its entries in the order of their keys, each key once. So two maps with the
same entries are equal, and the order in which entries were written does not show.
-/

namespace DeclSynth

/-- Entries in the order of their keys, which are distinct. -/
structure SortedMap (κ α : Type) [Ord κ] where
  entries : List (κ × α)
  sorted : entries.Pairwise fun a b => compare a.1 b.1 = .lt

namespace SortedMap

variable {κ α β : Type} [Ord κ]

/-- Entries with one more, in its place; it replaces an entry with the same key. -/
def insertEntry (key : κ) (value : α) : List (κ × α) → List (κ × α)
  | [] => [(key, value)]
  | e :: rest =>
    match compare key e.1 with
    | .lt => (key, value) :: e :: rest
    | .eq => (e.1, value) :: rest
    | .gt => e :: insertEntry key value rest

/-- Where a key of the changed entries comes from. -/
theorem mem_insertEntry {key : κ} {value : α} {entries : List (κ × α)} {x : κ × α}
    (h : x ∈ insertEntry key value entries) : x.1 = key ∨ ∃ e ∈ entries, e.1 = x.1 := by
  induction entries with
  | nil => simp_all [insertEntry]
  | cons e rest ih =>
    unfold insertEntry at h
    split at h <;> grind

/-- Entries stay sorted. -/
theorem pairwise_insertEntry [Std.TransOrd κ] {key : κ} {value : α} {entries : List (κ × α)}
    (h : entries.Pairwise fun a b => compare a.1 b.1 = .lt) :
    (insertEntry key value entries).Pairwise fun a b => compare a.1 b.1 = .lt := by
  induction entries with
  | nil => simp [insertEntry]
  | cons e rest ih =>
    rw [List.pairwise_cons] at h
    unfold insertEntry
    split
    next hlt =>
      refine List.pairwise_cons.2 ⟨fun x hx => ?_, List.pairwise_cons.2 h⟩
      rcases List.mem_cons.1 hx with rfl | hx
      · exact hlt
      · exact Std.TransCmp.lt_trans hlt (h.1 x hx)
    next => exact List.pairwise_cons.2 h
    next hgt =>
      refine List.pairwise_cons.2 ⟨fun x hx => ?_, ih h.2⟩
      rcases mem_insertEntry hx with hk | ⟨y, hy, hk⟩
      · rw [hk]
        exact Std.OrientedCmp.lt_of_gt hgt
      · exact hk ▸ h.1 y hy

/-- The map without entries. -/
def empty : SortedMap κ α := ⟨[], .nil⟩

/-- The map with a value under a key, whatever was there before. -/
def insert [Std.TransOrd κ] (m : SortedMap κ α) (key : κ) (value : α) : SortedMap κ α :=
  ⟨insertEntry key value m.entries, pairwise_insertEntry m.sorted⟩

/-- The map without a key. -/
def erase (m : SortedMap κ α) (key : κ) : SortedMap κ α :=
  ⟨m.entries.filter fun e => compare key e.1 != .eq, m.sorted.filter _⟩

/-- The value under a key. -/
def get? (m : SortedMap κ α) (key : κ) : Option α :=
  (m.entries.find? fun e => compare key e.1 == .eq).map (·.2)

/-- The keys, in order. -/
def keys (m : SortedMap κ α) : List κ := m.entries.map (·.1)

/-- The number of entries. -/
def size (m : SortedMap κ α) : Nat := m.entries.length

/-- Whether there are no entries. -/
def isEmpty (m : SortedMap κ α) : Bool := m.entries.isEmpty

/-- The map with some entries; of two with the same key the later one counts. -/
def ofList [Std.TransOrd κ] (entries : List (κ × α)) : SortedMap κ α :=
  entries.foldl (fun m e => m.insert e.1 e.2) empty

end SortedMap

end DeclSynth
