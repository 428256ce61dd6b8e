import DeclSynth.Json.Codec.Compound

/-!
# Integers as keys

A key that is an integer is written as its decimal digits and read as the beginning of a
JSON number. The digits of a number below two to the sixty-fourth are appended one by one
to the number itself (`appendDigits_toDigits`), so a key reads back as the integer that it
was written from (`decodeIntKey_toString`).
-/

namespace DeclSynth.Json

variable {kind : IntKind} {n : Nat}

namespace Scan

/-! ## Digits -/

theorem digitValue_digitChar (h : n < 10) : digitValue n.digitChar = n :=
  Nat.toNat_digitChar_sub_48_of_lt_ten h

/-- Digits are appended in turns. -/
theorem appendDigits_append {significand taken longer more : Nat} {digits rest : List Char}
    (h : appendDigits significand taken digits = (longer, more, [])) :
    appendDigits significand taken (digits ++ rest) = appendDigits longer more rest := by
  induction digits generalizing significand taken with
  | nil =>
    obtain ⟨rfl, rfl, -⟩ := by simpa [appendDigits] using h
    rfl
  | cons c digits ih =>
    rw [appendDigits] at h
    split at h
    next => simp at h
    next hlt =>
      rw [List.cons_append, appendDigits, if_neg hlt]
      exact ih h

/-- **The digits of a number make the number**, and none is left if it has at most 64 bits. -/
theorem appendDigits_toDigits (h : n < Nat.pow 2 64) :
    ∃ taken, appendDigits 0 0 (Nat.toDigits 10 n) = (n, taken, []) := by
  induction n using Nat.strongRecOn with
  | ind n ih =>
    rcases Nat.lt_or_ge n 10 with hn | hn
    · refine ⟨1, ?_⟩
      rw [Nat.toDigits_of_lt_base hn, appendDigits, digitValue_digitChar hn]
      simp [h, appendDigits]
    · obtain ⟨taken, htaken⟩ := ih (n / 10) (by omega) (by omega)
      have hvalue : n / 10 * 10 + digitValue (n % 10).digitChar = n := by
        rw [digitValue_digitChar (by omega)]
        omega
      refine ⟨taken + 1, ?_⟩
      rw [Nat.toDigits_of_base_le (by decide) hn, appendDigits_append htaken, appendDigits, hvalue]
      simp [h, appendDigits]

/-- The digits of a number other than zero do not start with a zero. -/
theorem head?_toDigits (h : n ≠ 0) : (Nat.toDigits 10 n).head? ≠ some '0' := by
  induction n using Nat.strongRecOn with
  | ind n ih =>
    rcases Nat.lt_or_ge n 10 with hn | hn
    · rw [Nat.toDigits_of_lt_base hn]
      simpa using h
    · have hprefix := ih (n / 10) (by omega) (by omega)
      rw [Nat.toDigits_of_base_le (by decide) hn, List.head?_append]
      cases hhead : (Nat.toDigits 10 (n / 10)).head? with
      | none => simp at hhead
      | some c => rwa [hhead] at hprefix

theorem isDigit_of_mem_toDigits {c : Char} (h : c ∈ Nat.toDigits 10 n) : c.isDigit = true :=
  Nat.isDigit_of_mem_toDigits (by decide) (by decide) h

/-- The digits of a number start with a digit. -/
theorem exists_toDigits_eq_cons (n : Nat) :
    ∃ d rest, Nat.toDigits 10 n = d :: rest ∧ d.isDigit = true := by
  obtain ⟨d, rest, h⟩ := List.exists_cons_of_ne_nil (Nat.toDigits_ne_nil (n := n) (b := 10))
  exact ⟨d, rest, h, isDigit_of_mem_toDigits (n := n) (by simp [h])⟩

/-! ## Numbers -/

section Run

variable {α β : Type} {c left : Cursor} {negative : Bool}

/-- What follows a step begins where the step ends. -/
theorem bind_run {scan : Scan α} {next : α → Scan β} {a : α} (h : scan.run c = .ok (a, left)) :
    (scan >>= next).run c = (next a).run left := by
  rw [StateT.run_bind, h]
  rfl

theorem peek_run : peek.run c = .ok (c.rest.head?, c) := rfl

theorem skip_run : skip.run c = .ok ((), c.next) := rfl

@[simp] theorem rest_next : c.next.rest = c.rest.tail := by
  rcases c with ⟨_ | ⟨d, rest⟩, place⟩ <;> rfl

/-- Nothing is left if all characters are to be passed over. -/
theorem takeWhile_run {p : Char → Bool} (h : ∀ d ∈ c.rest, p d = true) :
    ∃ left, left.rest = [] ∧ (takeWhile p).run c = .ok (c.rest, left) := by
  have hall : c.rest.takeWhile p = c.rest := by
    simpa using @List.takeWhile_append_of_pos _ p c.rest [] h
  refine ⟨⟨[], c.place.after (byteLength c.rest) c.rest⟩, rfl, ?_⟩
  simp [takeWhile, hall]
  rfl

theorem leadingDigits_run (hc : c.rest = Nat.toDigits 10 n) :
    ∃ left, left.rest = [] ∧ leadingDigits.run c = .ok (Nat.toDigits 10 n, left) := by
  rw [leadingDigits, bind_run peek_run, hc]
  rcases Nat.eq_zero_or_pos n with rfl | hpos
  · have hnext : c.next.rest = [] := by simp [hc]
    refine ⟨c.next, hnext, ?_⟩
    simp only [Nat.toDigits_zero, List.head?_cons]
    rw [bind_run skip_run, bind_run peek_run, hnext]
    rfl
  · obtain ⟨d, digits, hdigits, hd⟩ := exists_toDigits_eq_cons n
    have hzero : d ≠ '0' := by
      rintro rfl
      exact head?_toDigits (Nat.ne_of_gt hpos) (by rw [hdigits]; rfl)
    obtain ⟨left, hleft, hrun⟩ := takeWhile_run (c := c) (p := isDigit) fun e he =>
      isDigit_of_mem_toDigits (hc ▸ he)
    refine ⟨left, hleft, ?_⟩
    rw [hdigits] at hc ⊢
    rw [hc] at hrun
    simp only [List.head?_cons, isDigit, hd, if_true]
    exact hrun

theorem atExponent_run (hc : c.rest = []) : atExponent.run c = .ok (false, c) := by
  rw [atExponent, bind_run peek_run, bind_run peek_run, hc]
  rfl

/-- Nothing follows the digits of an integer. -/
theorem numberFrom_run (hc : c.rest = []) (h : n < Nat.pow 2 64)
    (hneg : negative = true → n ≠ 0 ∧ n ≤ Nat.pow 2 63) :
    (numberFrom negative (Nat.toDigits 10 n)).run c =
      .ok (if negative then .negative n else .natural n, c) := by
  obtain ⟨taken, hdigits⟩ := appendDigits_toDigits h
  simp only [numberFrom, hdigits]
  rw [bind_run peek_run, hc, if_neg (by simp), bind_run (atExponent_run hc)]
  cases negative with
  | false => rfl
  | true =>
    obtain ⟨hzero, hle⟩ := hneg rfl
    simp [hzero, Nat.not_lt.2 hle]
    rfl

/-- **The digits of a number are read as the number**, or as the negative one behind a sign. -/
theorem number_run (negative : Bool) (hc : c.rest = Nat.toDigits 10 n) (h : n < Nat.pow 2 64)
    (hneg : negative = true → n ≠ 0 ∧ n ≤ Nat.pow 2 63) :
    ∃ left, left.rest = [] ∧
      (number negative).run c = .ok (if negative then .negative n else .natural n, left) := by
  obtain ⟨left, hleft, hdigits⟩ := leadingDigits_run hc
  refine ⟨left, hleft, ?_⟩
  rw [number, bind_run hdigits]
  exact numberFrom_run hleft h hneg

end Run

end Scan

/-! ## Keys -/

theorem Bounded.ofInt?_val {b : Bounded kind} : Bounded.ofInt? kind b.val = some b := by
  rw [Bounded.ofInt?, dif_pos ⟨b.least_le, b.le_greatest⟩]

theorem boundedAt_run {b : Bounded kind} {c : Cursor} {i : Int} (h : i = b.val) :
    (boundedAt kind i).run c = .ok (b, c) := by
  rw [h, boundedAt, Bounded.ofInt?_val]
  rfl

/-- The text of an integer is the digits of its magnitude, behind a sign if it is negative. -/
theorem toList_toString_int {i : Int} :
    (toString i).toList =
      if i < 0 then '-' :: Nat.toDigits 10 i.natAbs else Nat.toDigits 10 i.natAbs := by
  cases i with
  | ofNat n => simp [Int.repr]
  | negSucc n => simp [Int.repr, Int.negSucc_lt_zero]

/-- An integer that JSON has a number for has a magnitude of 64 bits, or of 63 and one. -/
theorem natAbs_bounds {i : Int} (hleast : -Int.pow 2 63 ≤ i) (hgreatest : i < Int.pow 2 64) :
    i.natAbs < Nat.pow 2 64 ∧ (i < 0 → i.natAbs ≤ Nat.pow 2 63) := by
  have hsmall : Int.pow 2 63 = (Nat.pow 2 63 : Int) := rfl
  have hlarge : Int.pow 2 64 = (Nat.pow 2 64 : Int) := rfl
  have hlt : Nat.pow 2 63 < Nat.pow 2 64 := by decide
  omega

/-- The text of an integer is scanned to its end. -/
theorem scanBounded_run {b : Bounded kind} {c : Cursor} (hc : c.rest = (toString b.val).toList)
    (hleast : -Int.pow 2 63 ≤ b.val) (hgreatest : b.val < Int.pow 2 64) :
    ∃ left, left.rest = [] ∧ (scanBounded kind).run c = .ok (b, left) := by
  obtain ⟨hlt, hle⟩ := natAbs_bounds hleast hgreatest
  rw [toList_toString_int] at hc
  rw [scanBounded, Scan.bind_run Scan.peek_run]
  by_cases hneg : b.val < 0
  · rw [if_pos hneg] at hc
    have hrest : c.next.rest = Nat.toDigits 10 b.val.natAbs := by rw [Scan.rest_next, hc]; rfl
    obtain ⟨left, hleft, hrun⟩ :=
      Scan.number_run true hrest hlt fun _ => ⟨by omega, hle hneg⟩
    refine ⟨left, hleft, ?_⟩
    simp only [hc, List.head?_cons, beq_self_eq_true, if_true]
    rw [Scan.bind_run Scan.skip_run, Scan.bind_run hrun]
    exact boundedAt_run (by omega)
  · rw [if_neg hneg] at hc
    obtain ⟨d, rest, hdigits, hd⟩ := Scan.exists_toDigits_eq_cons b.val.natAbs
    have hsign : (c.rest.head? == some '-') = false := by
      rw [hc, hdigits]
      refine beq_false_of_ne fun heq => ?_
      rw [List.head?_cons, Option.some.injEq] at heq
      rw [heq] at hd
      simp at hd
    obtain ⟨left, hleft, hrun⟩ := Scan.number_run false hc hlt (by simp)
    refine ⟨left, hleft, ?_⟩
    simp only [hsign]
    rw [if_neg (by simp), Scan.bind_run hrun]
    exact boundedAt_run (by omega)

/-- **A key that was written from an integer is read as this integer.** -/
theorem decodeIntKey_toString {b : Bounded kind} (hleast : -Int.pow 2 63 ≤ b.val)
    (hgreatest : b.val < Int.pow 2 64) : decodeIntKey kind (toString b.val) = .ok b := by
  obtain ⟨left, hleft, hrun⟩ := scanBounded_run (c := .start (toString b.val)) rfl hleast hgreatest
  have hfirst : ∃ d rest, (toString b.val).toList = d :: rest ∧ (d.isDigit || d == '-') = true := by
    rw [toList_toString_int]
    split
    · exact ⟨'-', _, rfl, rfl⟩
    · obtain ⟨d, rest, hdigits, hd⟩ := Scan.exists_toDigits_eq_cons b.val.natAbs
      exact ⟨d, rest, hdigits, by rw [hd]; rfl⟩
  obtain ⟨d, rest, htext, hd⟩ := hfirst
  simp only [decodeIntKey, htext, hd, if_true, hrun, hleft, List.isEmpty_nil]

end DeclSynth.Json
