import DeclSynth.Store

/-!
# Typed readers

A typed reader finds under a key what the value there is decoded to as the reader's type, and
nothing where decoding fails. This is told of one JSON value at a time, case by case
(`Value.bool?_eq_decode` and its like); a store only adds that there may be no value at all
(`decode_fst`), so each reader agrees with the decoder of its type (`readers_eq_decode`).
-/

namespace DeclSynth

open Json

/-! ## One value -/

namespace Json

variable (v : Value)

theorem Value.bool?_eq_decode : v.bool? = (decode v : Except DecodeError Bool).toOption := by
  cases v <;> rfl

theorem Value.string?_eq_decode : v.string? = (decode v : Except DecodeError String).toOption := by
  cases v <;> rfl

/-- Integers are widened on both sides. -/
theorem Value.double?_eq_decode : v.double? = (decode v : Except DecodeError Double).toOption := by
  cases v <;> rfl

/-- A value of an integer type is an integer between the least and the greatest of the type. -/
theorem Bounded.toOption_ofInt (kind : IntKind) (n : Int) :
    (Bounded.ofInt kind n).toOption.map Bounded.val =
      if kind.least ≤ n ∧ n ≤ kind.greatest then some n else none := by
  unfold Bounded.ofInt Bounded.ofInt?
  by_cases hrange : kind.least ≤ n ∧ n ≤ kind.greatest
  · rw [dif_pos hrange, if_pos hrange]
    rfl
  · rw [dif_neg hrange, if_neg hrange]
    rfl

/-- A double is no integer on either side, also where its value is one. -/
theorem Value.integer?_eq_decode :
    v.integer? = (decode v : Except DecodeError (Bounded .i64)).toOption.map Bounded.val := by
  cases v with
  | int n =>
    have hrange : (-Int.pow 2 63 ≤ n ∧ n < Int.pow 2 63) ↔
        IntKind.i64.least ≤ n ∧ n ≤ IntKind.i64.greatest :=
      and_congr_right fun _ => Int.le_sub_one_iff.symm
    simp only [Value.integer?, hrange]
    exact (Bounded.toOption_ofInt .i64 n).symm
  | _ => rfl

end Json

/-! ## The value under a key -/

namespace Store

variable {α : Type} [Decode α]

/-- What is decoded under a key is what the value there is decoded to, if there is one and it can
be. -/
theorem decode_fst (s : Store) (key : String) :
    (s.decode α key).1 = (s.get? key).bind fun v => (Json.decode v : Except _ α).toOption := by
  unfold decode tryDecode
  cases s.get? key with
  | none => rfl
  | some v =>
    dsimp only [Option.bind_some]
    cases (Json.decode v : Except _ α) <;> rfl

/-- **Each typed reader agrees with the decoder of its type**, whatever is under the key. -/
theorem readers_eq_decode (s : Store) (key : String) :
    s.bool? key = (s.decode Bool key).1 ∧
      s.string? key = (s.decode String key).1 ∧
      s.float? key = (s.decode Double key).1 ∧
      s.integer? key = (s.decode (Bounded .i64) key).1.map Bounded.val := by
  simp only [decode_fst, Option.map_bind]
  refine ⟨?_, ?_, ?_, ?_⟩
  · exact Option.bind_congr fun v _ => v.bool?_eq_decode
  · exact Option.bind_congr fun v _ => v.string?_eq_decode
  · exact Option.bind_congr fun v _ => v.double?_eq_decode
  · exact Option.bind_congr fun v _ => v.integer?_eq_decode

end Store

end DeclSynth
