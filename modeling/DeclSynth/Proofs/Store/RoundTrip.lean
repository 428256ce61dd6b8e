import DeclSynth.Proofs.Json.Shape
import DeclSynth.Proofs.Store.Refinement

/-!
# A stored value lasts

What is stored under a key is found there as long as nothing else is written to the key
and neither the key nor the whole store is cleared. One operation that spares a key
leaves the value under it (`get?_onStore`), so any number of them do (`get?_run`), and a
value that fits is read back as it was stored (`decode_run_store`).
-/

namespace DeclSynth

open Json

namespace Store

variable {s : Store} {key : String} {ρ : Type}

/-- Whether an operation neither writes a key nor removes it nor clears the store. An attempt to
store what cannot be written as JSON writes nothing. -/
def Operation.Spares (key : String) : Operation ρ → Prop
  | .setValue k _ => k ≠ key
  | @Operation.store _ _ k a => k = key → ∃ cause, encode a = .error cause
  | .remove k => k ≠ key
  | .clear => False
  | _ => True

theorem get?_set_of_ne {k : String} {v : Value} (h : k ≠ key) :
    (s.set k v).get? key = s.get? key := by
  rw [get?, set, SortedMap.get?_insert, if_neg h.symm, get?]

theorem get?_erase_of_ne {k : String} (h : k ≠ key) : (s.erase k).get? key = s.get? key := by
  rw [get?, erase, SortedMap.get?_erase, if_neg h.symm, get?]

/-- **One operation.** If it spares a key, the value under the key stays. -/
theorem get?_onStore {op : Operation ρ} (h : op.Spares key) (s : Store) :
    (op.onStore s).2.get? key = s.get? key := by
  cases op with
  | setValue k v => exact get?_set_of_ne h
  | store k a =>
    simp only [Operation.onStore, Store.store]
    cases hencode : encode a with
    | error cause => rfl
    | ok v =>
      refine get?_set_of_ne fun hk => ?_
      obtain ⟨cause, hcause⟩ := h hk
      rw [hencode] at hcause
      cases hcause
  | remove k => exact get?_erase_of_ne h
  | clear => exact h.elim
  | _ => rfl

/-- **Any operations.** If all of them spare a key, the value under the key stays. -/
theorem get?_run {ops : List (Σ ρ, Operation ρ)} (h : ∀ op ∈ ops, op.2.Spares key) (s : Store) :
    (run Operation.onStore ops s).2.get? key = s.get? key := by
  induction ops generalizing s with
  | nil => rfl
  | cons op ops ih =>
    obtain ⟨hop, hops⟩ := List.forall_mem_cons.1 h
    exact (ih hops _).trans (get?_onStore hop s)

/-- What can be written is found under its key. -/
theorem store_eq_write {α : Type} [Encode α] {a : α} {v : Value} (h : encode a = .ok v) :
    s.store key a = s.write key v := by
  rw [store, h]

theorem get?_write {v : Value} : (s.write key v).store.get? key = some v := by
  change (s.set key v).get? key = some v
  rw [get?, set, SortedMap.get?_insert, if_pos rfl]

/-- **A stored value is read back.** Storing a value that fits succeeds, and after any operations
that spare its key it is read as the value that was stored, without a word in the log. -/
theorem decode_run_store (shape : Shape) {a : shape.Carrier} (ha : shape.Fits a)
    {ops : List (Σ ρ, Operation ρ)} (hops : ∀ op ∈ ops, op.2.Spares key) (s : Store) :
    (s.store key a).answer = .ok () ∧
      tryDecode shape.Carrier (run Operation.onStore ops (s.store key a).store).2 key =
        .ok (some a) ∧
      decode shape.Carrier (run Operation.onStore ops (s.store key a).store).2 key =
        (some a, []) := by
  obtain ⟨v, hencode, hdecode⟩ := shape.roundTrips a ha
  rw [store_eq_write hencode]
  have hfound : (run Operation.onStore ops (s.write key v).store).2.get? key = some v :=
    (get?_run hops _).trans get?_write
  have htry : tryDecode shape.Carrier (run Operation.onStore ops (s.write key v).store).2 key =
      .ok (some a) := by
    simp only [tryDecode, hfound, hdecode]
  exact ⟨rfl, htry, by rw [decode, htry]⟩

/-- A map with integer keys is read back after the other keys of the store were written, removed
and read, and after its own key was to be given an integer that JSON has no place for. -/
theorem decode_run_store_map :
    let shape : Shape := .intMap .i64 (.list .string)
    let a : shape.Carrier := SortedMap.ofList
      [(⟨10, by decide, by decide⟩, []), (⟨-9, by decide, by decide⟩, ["nine", ""])]
    let ops : List (Σ ρ, Operation ρ) := [⟨_, .setValue "b" .null⟩, ⟨_, .remove "c"⟩,
      ⟨_, .store "a" (⟨Int.pow 2 64, by decide, by decide⟩ : Bounded .i128)⟩, ⟨_, .keys⟩]
    (∀ op ∈ ops, op.2.Spares "a") ∧
      decode shape.Carrier (run Operation.onStore ops (empty.store "a" a).store).2 "a" =
        (some a, []) := by
  intro shape a ops
  have hops : ∀ op ∈ ops, op.2.Spares "a" := by
    intro op hop
    simp only [ops, List.mem_cons, List.not_mem_nil, or_false] at hop
    rcases hop with rfl | rfl | rfl | rfl
    · exact (by decide : "b" ≠ "a")
    · exact (by decide : "c" ≠ "a")
    · exact fun _ => ⟨.numberOutOfRange, rfl⟩
    · trivial
  have ha : shape.Fits a := fun e _ => ⟨nofun, fun _ _ => trivial⟩
  exact ⟨hops, (decode_run_store shape ha hops empty).2.2⟩

end Store

end DeclSynth
