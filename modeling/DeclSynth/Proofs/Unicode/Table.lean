import DeclSynth.Unicode.Table

/-!
# Looking code points up

A table is looked up by halving, which finds an entry around a code point
whenever there is one, provided that the ranges increase (`findEntry_eq_some`).
So a set holds exactly the points that one of its ranges lists
(`RangeSet.contains_iff`), and a mapping sends a point to what one of its
entries says (`RangeMap.exists_of_find?`).
-/

namespace DeclSynth.Unicode

variable {α : Type} {range : α → CodeRange} {entries : Array α} {n lo hi : Nat} {e : α}

/-! ## Halving -/

/-- What is found is an entry around the code point. -/
theorem mem_of_findEntry (h : findEntry range entries n lo hi = some e) :
    e ∈ entries.toList ∧ (range e).lo ≤ n ∧ n ≤ (range e).hi := by
  fun_induction findEntry range entries n lo hi with
  | case1 => cases h
  | case2 lo hi hlt mid e' hmid hleft ih => exact ih h
  | case3 lo hi hlt mid e' hmid hleft hright ih => exact ih h
  | case4 lo hi hlt mid e' hmid hleft hright =>
    cases h
    exact ⟨Array.mem_toList_iff.2 (Array.mem_of_getElem? hmid), by omega, by omega⟩
  | case5 => cases h

/-- Ranges that are none of them empty, that increase, and that do not meet. -/
structure Increasing (rs : List CodeRange) : Prop where
  nonempty : ∀ r ∈ rs, r.lo ≤ r.hi
  apart : rs.Pairwise fun a b => a.hi < b.lo

/-- The range of an entry is not empty. -/
theorem Increasing.ordered {i : Nat} {a : α} (h : Increasing (entries.toList.map range))
    (ha : entries[i]? = some a) : (range a).lo ≤ (range a).hi :=
  h.nonempty _ (List.mem_map_of_mem (Array.mem_toList_iff.2 (Array.mem_of_getElem? ha)))

/-- An entry lies below another one that comes later. -/
theorem Increasing.lt {i j : Nat} {a b : α} (h : Increasing (entries.toList.map range))
    (ha : entries[i]? = some a) (hb : entries[j]? = some b) (hij : i < j) :
    (range a).hi < (range b).lo := by
  obtain ⟨hi, rfl⟩ := Array.getElem?_eq_some_iff.1 ha
  obtain ⟨hj, rfl⟩ := Array.getElem?_eq_some_iff.1 hb
  have hpairs := List.pairwise_map.1 h.apart
  exact List.pairwise_iff_getElem.1 hpairs i j (by simpa using hi) (by simpa using hj) hij

/-- **An entry around the code point is found**, where the ranges increase. -/
theorem findEntry_eq_some {i : Nat} (h : Increasing (entries.toList.map range))
    (he : entries[i]? = some e) (hlo : lo ≤ i) (hhi : i < hi) (hsize : hi ≤ entries.size)
    (hbelow : (range e).lo ≤ n) (habove : n ≤ (range e).hi) :
    findEntry range entries n lo hi = some e := by
  fun_induction findEntry range entries n lo hi with
  | case1 lo hi hlt mid hnone =>
    have hmid : mid < entries.size := by omega
    simp [hmid] at hnone
  | case2 lo hi hlt mid e' hmid hleft ih =>
    -- the entry in the middle starts behind the point, so the wanted one comes before it
    have hbefore : i < mid := by
      rcases Nat.lt_trichotomy i mid with hi | rfl | hi
      · exact hi
      · rw [hmid] at he
        cases he
        omega
      · have := h.lt hmid he hi
        have := h.ordered hmid
        omega
    exact ih hlo hbefore (by omega)
  | case3 lo hi hlt mid e' hmid hleft hright ih =>
    have hbehind : mid < i := by
      rcases Nat.lt_trichotomy i mid with hi | rfl | hi
      · have := h.lt he hmid hi
        have := h.ordered hmid
        omega
      · rw [hmid] at he
        cases he
        omega
      · exact hi
    exact ih (by omega) hhi hsize
  | case4 lo hi hlt mid e' hmid hleft hright =>
    rcases Nat.lt_trichotomy i mid with hi | rfl | hi
    · have := h.lt he hmid hi
      omega
    · rw [hmid] at he
      exact he
    · have := h.lt hmid he hi
      omega
  | case5 lo hi hle => omega

/-! ## Sets -/

/-- A set holds the points that its ranges list, and no others. -/
theorem RangeSet.exists_of_contains {s : RangeSet} (h : s.contains n = true) :
    ∃ r ∈ s.ranges.toList, r.contains n = true := by
  unfold contains at h
  split at h
  · rename_i r hr
    exact ⟨r, (mem_of_findEntry hr).1, h⟩
  · cases h

/-- **A set holds what one of its ranges lists**, where they increase. -/
theorem RangeSet.contains_iff {s : RangeSet} (hs : Increasing s.ranges.toList) :
    s.contains n = true ↔ ∃ r ∈ s.ranges.toList, r.contains n = true := by
  refine ⟨exists_of_contains, fun ⟨r, hr, hn⟩ => ?_⟩
  obtain ⟨i, hi, hri⟩ := Array.getElem_of_mem (Array.mem_toList_iff.1 hr)
  have hbounds : r.lo ≤ n ∧ n ≤ r.hi := by
    simp only [CodeRange.contains, Bool.and_eq_true, decide_eq_true_eq] at hn
    exact hn.1
  have hfound : findEntry id s.ranges n 0 s.ranges.size = some r :=
    findEntry_eq_some (by simpa using hs) (Array.getElem?_eq_some_iff.2 ⟨hi, hri⟩) (Nat.zero_le i)
      hi (Nat.le_refl _) hbounds.1 hbounds.2
  rw [contains, hfound]
  exact hn

/-! ## Mappings -/

/-- What an entry sends a point to. -/
def MapEntry.imageAt (e : MapEntry) (n : Nat) : List Nat :=
  match e.image with
  | [target] => [target + (n - e.range.lo)]
  | image => image

/-- **A mapping sends a point to what one of its entries says.** -/
theorem RangeMap.exists_of_find? {m : RangeMap} {image : List Nat} (h : m.find? n = some image) :
    ∃ e ∈ m.entries.toList, e.range.contains n = true ∧ image = e.imageAt n := by
  unfold find? at h
  split at h
  · rename_i e he
    split at h
    · rename_i hn
      exact ⟨e, (mem_of_findEntry he).1, hn, (Option.some.inj h).symm⟩
    · cases h
  · cases h

end DeclSynth.Unicode
