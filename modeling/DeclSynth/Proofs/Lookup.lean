import Mathlib.Data.List.Nodup

/-!
# Looking up by keys

What is found in a list under the key of one of its elements, where the elements have
distinct keys: this element alone (`filter_key`, `find?_key`), in whatever order they stand
(`find?_perm`).
-/

namespace DeclSynth

variable {β γ κ : Type} [BEq κ] [LawfulBEq κ] {key : β → κ} {l l' : List β} {b : β}

/-- An element is the only one with its key. -/
theorem filter_key (hdistinct : (l.map key).Nodup) (hb : b ∈ l) :
    l.filter (key · == key b) = [b] := by
  obtain ⟨before, after, rfl⟩ := List.append_of_mem hb
  rw [List.map_append, List.map_cons, List.nodup_append, List.nodup_cons] at hdistinct
  obtain ⟨-, ⟨hnew, -⟩, hcross⟩ := hdistinct
  have hleft : before.filter (key · == key b) = [] :=
    List.filter_eq_nil_iff.2 fun a ha => by
      simpa using hcross _ (List.mem_map_of_mem ha) _ List.mem_cons_self
  have hright : after.filter (key · == key b) = [] :=
    List.filter_eq_nil_iff.2 fun a ha => by
      have hne : key a ≠ key b := fun hsame => hnew (hsame ▸ List.mem_map_of_mem ha)
      simpa using hne
  rw [List.filter_append, List.filter_cons, hleft, hright]
  simp

/-- An element is found under its key. -/
theorem find?_key (hdistinct : (l.map key).Nodup) (hb : b ∈ l) :
    l.find? (key · == key b) = some b := by
  rw [← List.head?_filter, filter_key hdistinct hb]
  rfl

theorem lookup_map (val : β → γ) (k : κ) :
    (l.map fun b => (key b, val b)).lookup k = (l.find? (key · == k)).map val := by
  induction l with
  | nil => rfl
  | cons a rest ih =>
    rw [List.map_cons, List.lookup_cons, List.find?_cons, ih, BEq.comm]
    cases key a == k <;> rfl

theorem lookup_map_key (hdistinct : (l.map key).Nodup) (hb : b ∈ l) (val : β → γ) :
    (l.map fun b => (key b, val b)).lookup (key b) = some (val b) := by
  rw [lookup_map, find?_key hdistinct hb, Option.map_some]

/-- The order of the elements does not matter. -/
theorem find?_perm (hdistinct : (l.map key).Nodup) (hperm : l'.Perm l) (k : κ) :
    l'.find? (key · == k) = l.find? (key · == k) := by
  have hdistinct' : (l'.map key).Nodup := (hperm.map key).nodup_iff.2 hdistinct
  cases hfound : l.find? (key · == k) with
  | some b =>
    have hb : b ∈ l' := hperm.mem_iff.2 (List.mem_of_find?_eq_some hfound)
    obtain rfl : key b = k := beq_iff_eq.1 (List.find?_some (p := (key · == k)) hfound)
    exact find?_key hdistinct' hb
  | none =>
    rw [List.find?_eq_none] at hfound ⊢
    exact fun b hb => hfound b (hperm.mem_iff.1 hb)

end DeclSynth
