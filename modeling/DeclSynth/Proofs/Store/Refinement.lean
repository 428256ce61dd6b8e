import DeclSynth.Proofs.SortedMap
import DeclSynth.Proofs.Text.Utf8
import DeclSynth.Store
import Mathlib.Data.Finmap
import Mathlib.Data.Finset.Sort

/-!
# A store is a finite map

`Operation` lists what can be done to a store, and each operation is carried out
both on a store and on a finite map from texts to JSON values. One operation gives
the same answer on a store and on the map of its entries and leaves them in step
(`onStore_eq`), so any list of operations answers alike on the two
(`run_onStore_eq`).
-/

namespace DeclSynth

open Json Text

namespace Store

/-! ## Operations -/

/-- What can be done to a store, by the type of the answer. -/
inductive Operation : Type → Type 1 where
  | setValue (key : String) (v : Value) : Operation Unit
  | store {α : Type} [Encode α] (key : String) (a : α) : Operation (Except StoreError Unit)
  | value (key : String) : Operation (Option Value)
  | remove (key : String) : Operation (Option Value)
  | containsKey (key : String) : Operation Bool
  | len : Operation Nat
  | isEmpty : Operation Bool
  | keys : Operation (List String)
  | clear : Operation Unit
  | bool (key : String) : Operation (Option Bool)
  | integer (key : String) : Operation (Option Int)
  | float (key : String) : Operation (Option Double)
  | string (key : String) : Operation (Option String)
  | tryDecode (α : Type) [Decode α] (key : String) : Operation (Except StoreError (Option α))
  | decode (α : Type) [Decode α] (key : String) : Operation (Option α)

/-- What an attempt to write answers. -/
def Written.answer (w : Written) : Except StoreError Unit :=
  match w.error with
  | none => .ok ()
  | some e => .error e

/-- Carries an operation out on a store. -/
def Operation.onStore {ρ : Type} : Operation ρ → Store → ρ × Store
  | setValue key v, s => ((), (s.write key v).store)
  | store key a, s => ((s.store key a).answer, (s.store key a).store)
  | value key, s => (s.get? key, s)
  | remove key, s => (s.get? key, s.erase key)
  | containsKey key, s => (s.contains key, s)
  | len, s => (s.size, s)
  | isEmpty, s => (s.isEmpty, s)
  | keys, s => (s.keys, s)
  | clear, _ => ((), empty)
  | bool key, s => (s.bool? key, s)
  | integer key, s => (s.integer? key, s)
  | float key, s => (s.float? key, s)
  | string key, s => (s.string? key, s)
  | tryDecode α key, s => (s.tryDecode α key, s)
  | decode α key, s => ((s.decode α key).1, s)

/-! ## Finite maps -/

/-- A finite map from texts to JSON values. -/
abbrev FiniteMap := Finmap fun _ : String => Value

/-- Carries an operation out on a finite map: a value that cannot be written leaves the map as it
is, a value of another type than the one asked for is told apart from none by `tryDecode` only, and
the keys are listed in the order of their bytes. -/
def Operation.onMap {ρ : Type} : Operation ρ → FiniteMap → ρ × FiniteMap
  | setValue key v, m => ((), m.insert key v)
  | store key a, m =>
    match encode a with
    | .ok v => (.ok (), m.insert key v)
    | .error cause => (.error (.encode key cause), m)
  | value key, m => (m.lookup key, m)
  | remove key, m => (m.lookup key, m.erase key)
  | containsKey key, m => (decide (key ∈ m), m)
  | len, m => (m.keys.card, m)
  | isEmpty, m => (decide (m.keys = ∅), m)
  | keys, m => (m.keys.sort ByteLE, m)
  | clear, _ => ((), ∅)
  | bool key, m => ((m.lookup key).bind Value.bool?, m)
  | integer key, m => ((m.lookup key).bind Value.integer?, m)
  | float key, m => ((m.lookup key).bind Value.double?, m)
  | string key, m => ((m.lookup key).bind Value.string?, m)
  | tryDecode α key, m =>
    match (m.lookup key).map (Json.decode (α := α)) with
    | none => (.ok none, m)
    | some (.ok a) => (.ok (some a), m)
    | some (.error cause) => (.error (.decode key cause), m)
  | decode α key, m => ((m.lookup key).bind fun v => (Json.decode (α := α) v).toOption, m)

/-- Carries operations out one after the other: the answers in their order, and what is left. -/
def run {σ : Type} (step : {ρ : Type} → Operation ρ → σ → ρ × σ) :
    List (Σ ρ, Operation ρ) → σ → List (Σ ρ : Type, ρ) × σ
  | [], s => ([], s)
  | ⟨ρ, op⟩ :: ops, s =>
    let (answer, s) := step op s
    let (answers, s) := run step ops s
    (⟨ρ, answer⟩ :: answers, s)

/-! ## The map of a store -/

variable {s : Store} {key k : String} {v : Value} {ρ : Type}

/-- The entries of a store as a finite map. -/
def toMap (s : Store) : FiniteMap :=
  (s.values.entries.map fun e => (⟨e.1, e.2⟩ : Σ _ : String, Value)).toFinmap

/-- A key is looked up in the map as it is in the store. -/
@[simp] theorem lookup_toMap : s.toMap.lookup key = s.get? key := by
  rw [toMap, Finmap.dlookup_list_toFinmap, get?, SortedMap.get?]
  induction s.values.entries with
  | nil => rfl
  | cons e rest ih =>
    rw [List.map_cons, List.find?_cons]
    by_cases hkey : key = e.1
    · rw [hkey, List.dlookup_cons_eq]
      simp
    · have hcompare : (Ord.compare key e.1 == .eq) = false := by simpa using hkey
      rw [List.dlookup_cons_ne _ _ hkey, ih, hcompare]

@[simp] theorem toMap_empty : empty.toMap = ∅ := rfl

@[simp] theorem toMap_set : (s.set key v).toMap = s.toMap.insert key v := by
  refine Finmap.ext_lookup fun k => ?_
  rw [lookup_toMap, get?, set, SortedMap.get?_insert]
  by_cases hk : k = key
  · rw [if_pos hk, hk, Finmap.lookup_insert]
  · rw [if_neg hk, Finmap.lookup_insert_of_ne _ hk, lookup_toMap, get?]

@[simp] theorem toMap_erase : (s.erase key).toMap = s.toMap.erase key := by
  refine Finmap.ext_lookup fun k => ?_
  rw [lookup_toMap, get?, erase, SortedMap.get?_erase]
  by_cases hk : k = key
  · rw [if_pos hk, hk, Finmap.lookup_erase]
  · rw [if_neg hk, Finmap.lookup_erase_ne hk, lookup_toMap, get?]

/-- The keys of the map are those that the store lists. -/
theorem keys_toMap : s.toMap.keys = s.keys.toFinset := by
  ext k
  rw [Finmap.mem_keys, ← Finmap.lookup_isSome, lookup_toMap, List.mem_toFinset]
  exact SortedMap.mem_keys.symm

theorem nodup_keys (s : Store) : s.keys.Nodup := s.values.nodup_keys

theorem card_keys_toMap : s.toMap.keys.card = s.size := by
  rw [keys_toMap, List.toFinset_card_of_nodup s.nodup_keys]
  exact List.length_map _

/-- **The keys are listed in the order of their bytes, each once.** -/
theorem sort_keys_toMap : s.toMap.keys.sort ByteLE = s.keys := by
  rw [keys_toMap, List.toFinset_sort ByteLE s.nodup_keys]
  refine s.values.pairwise_keys.imp fun h => ?_
  exact List.le_of_lt (utf8_lt_of_lt (compareOfLessAndEq_eq_lt.1 h))

/-! ## Runs -/

/-- **One operation.** It answers alike on a store and on its map, and leaves a store and its
map. -/
theorem onStore_eq (op : Operation ρ) (s : Store) :
    (op.onStore s).1 = (op.onMap s.toMap).1 ∧ (op.onStore s).2.toMap = (op.onMap s.toMap).2 := by
  cases op with
  | setValue key v => exact ⟨rfl, toMap_set⟩
  | store key a =>
    simp only [Operation.onStore, Operation.onMap, Store.store]
    cases encode a with
    | ok v => exact ⟨rfl, toMap_set⟩
    | error cause => exact ⟨rfl, rfl⟩
  | value key => exact ⟨lookup_toMap.symm, rfl⟩
  | remove key => exact ⟨lookup_toMap.symm, toMap_erase⟩
  | containsKey key =>
    refine ⟨Bool.eq_iff_iff.2 ?_, rfl⟩
    simp only [Operation.onStore, Operation.onMap, contains, decide_eq_true_eq,
      ← Finmap.lookup_isSome, lookup_toMap]
  | len => exact ⟨card_keys_toMap.symm, rfl⟩
  | isEmpty =>
    refine ⟨Bool.eq_iff_iff.2 ?_, rfl⟩
    simp only [Operation.onStore, Operation.onMap, decide_eq_true_eq, ← Finset.card_eq_zero,
      card_keys_toMap]
    exact List.isEmpty_iff_length_eq_zero
  | keys => exact ⟨sort_keys_toMap.symm, rfl⟩
  | clear => exact ⟨rfl, toMap_empty⟩
  | bool key => exact ⟨by simp [Operation.onStore, Operation.onMap, bool?], rfl⟩
  | integer key => exact ⟨by simp [Operation.onStore, Operation.onMap, integer?], rfl⟩
  | float key => exact ⟨by simp [Operation.onStore, Operation.onMap, float?], rfl⟩
  | string key => exact ⟨by simp [Operation.onStore, Operation.onMap, string?], rfl⟩
  | tryDecode α key =>
    simp only [Operation.onStore, Operation.onMap, tryDecode, lookup_toMap]
    cases s.get? key with
    | none => exact ⟨rfl, rfl⟩
    | some v =>
      cases hv : Json.decode (α := α) v with
      | ok a => simp [hv]
      | error cause => simp [hv]
  | decode α key =>
    simp only [Operation.onStore, Operation.onMap, decode, tryDecode, lookup_toMap]
    cases s.get? key with
    | none => simp
    | some v =>
      cases hv : Json.decode (α := α) v with
      | ok a => simp [hv, Except.toOption]
      | error cause => simp [hv, Except.toOption]

/-- **A store is a finite map.** Any operations, one after the other, answer on a store as they do
on the finite map of its entries, and what is left of the store has the entries that are left of the
map. -/
theorem run_onStore_eq (ops : List (Σ ρ, Operation ρ)) (s : Store) :
    (run Operation.onStore ops s).1 = (run Operation.onMap ops s.toMap).1 ∧
      (run Operation.onStore ops s).2.toMap = (run Operation.onMap ops s.toMap).2 := by
  induction ops generalizing s with
  | nil => exact ⟨rfl, rfl⟩
  | cons op ops ih =>
    obtain ⟨ρ, op⟩ := op
    obtain ⟨hanswer, hleft⟩ := onStore_eq op s
    obtain ⟨hanswers, hend⟩ := ih (op.onStore s).2
    rw [hleft] at hanswers hend
    simp only [run, hanswer, hanswers, hend, and_self]

end Store

end DeclSynth
