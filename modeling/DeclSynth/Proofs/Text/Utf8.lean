import Mathlib.Data.String.Basic

/-!
# Texts by their bytes

`ByteLE` is the order of texts by their bytes in UTF-8, in which sorted lists
of texts stand. A character is written as the digits of its code point to the
base 64, the leading ones in the first byte with a mark that says how many bytes
follow (`utf8EncodeChar_eq`), so characters are written in their order and the
order of texts by their characters is the order by their bytes (`utf8_lt_of_lt`).
-/

namespace DeclSynth.Text

variable {s t : String} {c d : Char} {k n m : Nat} {u v : List UInt8}

/-- The bytes of a text in UTF-8. -/
def utf8 (s : String) : List UInt8 := s.toByteArray.data.toList

theorem utf8_injective : Function.Injective utf8 := fun _ _ h =>
  String.toByteArray_inj.1 (ByteArray.ext (Array.toList_inj.1 h))

/-- The bytes of a text are those of its characters, one after the other. -/
theorem utf8_eq_flatMap : utf8 s = s.toList.flatMap String.utf8EncodeChar := by
  rw [utf8, ← String.utf8Encode_toList, List.utf8Encode]
  simp

/-! ## One character -/

/-- How many bytes stand behind the first one of a code point. -/
def followerCount (n : Nat) : Nat :=
  if n ≤ 0x7f then 0 else if n ≤ 0x7ff then 1 else if n ≤ 0xffff then 2 else 3

/-- What the first byte adds to the leading digits, by the bytes that follow it. -/
def leadMark : Nat → Nat
  | 0 => 0
  | 1 => 192
  | 2 => 224
  | _ => 240

/-- The bytes behind the first one: so many digits of a number to the base 64. -/
def followers : Nat → Nat → List UInt8
  | 0, _ => []
  | k + 1, n => UInt8.ofNat (n / 64 ^ k % 64 + 128) :: followers k n

/-- A code point lies in one of seventeen planes. -/
theorem toNat_val_lt (c : Char) : c.val.toNat < 0x110000 := by
  have hvalid : c.val.toNat < 0xd800 ∨ 0xdfff < c.val.toNat ∧ c.val.toNat < 0x110000 := c.valid
  omega

/-- **A character is written as its leading digits with their mark, and the digits that
follow.** -/
theorem utf8EncodeChar_eq (c : Char) :
    String.utf8EncodeChar c =
      UInt8.ofNat (c.val.toNat / 64 ^ followerCount c.val.toNat +
        leadMark (followerCount c.val.toNat)) ::
        followers (followerCount c.val.toNat) c.val.toNat := by
  have hc := toNat_val_lt c
  generalize hn : c.val.toNat = n at hc
  simp only [String.utf8EncodeChar, hn, followerCount]
  split_ifs
  · simp [followers, leadMark]
  · simp [followers, leadMark, Nat.mod_eq_of_lt (by omega : n / 64 < 32)]
  · simp [followers, leadMark, Nat.mod_eq_of_lt (by omega : n / 4096 < 16)]
  · simp [followers, leadMark, Nat.mod_eq_of_lt (by omega : n / 262144 < 8)]

/-! ## The order of characters -/

/-- Of two numbers the lower one has the lower digits, the leading ones first. -/
theorem digits_lt {b : Nat} (h : n < m) : n / b < m / b ∨ n / b = m / b ∧ n % b < m % b := by
  rcases Nat.lt_or_eq_of_le (Nat.div_le_div_right (c := b) h.le) with hlt | heq
  · exact .inl hlt
  · have hn := Nat.div_add_mod n b
    have hm := Nat.div_add_mod m b
    rw [heq] at hn
    exact .inr ⟨heq, by omega⟩

theorem cons_ofNat_lt (h : n < m) (hm : m < 256) : UInt8.ofNat n :: u < UInt8.ofNat m :: v := by
  refine List.cons_lt_cons_iff.2 (.inl ?_)
  rw [UInt8.lt_iff_toNat_lt, UInt8.toNat_ofNat', UInt8.toNat_ofNat']
  omega

/-- Digits that follow compare as the number that they make up. -/
theorem followers_append_lt (h : n % 64 ^ k < m % 64 ^ k) :
    followers k n ++ u < followers k m ++ v := by
  induction k with
  | zero => simp [Nat.mod_one] at h
  | succ k ih =>
    have hdigits := digits_lt (b := 64 ^ k) h
    simp only [Nat.pow_succ, Nat.mod_mul_right_div_self, Nat.mod_mul_right_mod] at hdigits
    rcases hdigits with hlt | ⟨heq, hlt⟩
    · exact cons_ofNat_lt (by omega) (by omega)
    · rw [followers, followers, heq]
      exact List.cons_lt_cons_iff.2 (.inr ⟨rfl, ih hlt⟩)

/-- **Characters are written in their order.** A greater code point has more bytes, and
so a first byte with a greater mark, or as many, and then greater digits. -/
theorem utf8EncodeChar_append_lt (h : c < d) :
    String.utf8EncodeChar c ++ u < String.utf8EncodeChar d ++ v := by
  have hcd : c.val.toNat < d.val.toNat := UInt32.lt_iff_toNat_lt.1 (Char.lt_def.1 h)
  have hd := toNat_val_lt d
  rw [utf8EncodeChar_eq, utf8EncodeChar_eq]
  generalize c.val.toNat = n at hcd
  generalize d.val.toNat = m at hcd hd
  have hbyte : m / 64 ^ followerCount m + leadMark (followerCount m) < 256 := by
    simp only [followerCount]
    split_ifs <;> simp only [leadMark] <;> omega
  by_cases hcount : followerCount n = followerCount m
  · rw [hcount]
    rcases digits_lt (b := 64 ^ followerCount m) hcd with hlt | ⟨heq, hlt⟩
    · exact cons_ofNat_lt (by omega) hbyte
    · rw [heq]
      exact List.cons_lt_cons_iff.2 (.inr ⟨rfl, followers_append_lt hlt⟩)
  · refine cons_ofNat_lt ?_ hbyte
    simp only [followerCount] at hcount ⊢
    split_ifs at hcount ⊢ <;> simp only [leadMark] <;> omega

/-! ## The order of texts -/

/-- The order of texts by their bytes. -/
def ByteLE (s t : String) : Prop := utf8 s ≤ utf8 t

instance : DecidableRel ByteLE := fun s t => inferInstanceAs (Decidable (utf8 s ≤ utf8 t))

instance : IsTrans String ByteLE := ⟨fun _ _ _ => List.le_trans⟩

instance : Std.Antisymm ByteLE := ⟨fun _ _ h h' => utf8_injective (List.le_antisymm h h')⟩

instance : Std.Total ByteLE := ⟨fun _ _ => List.le_total _ _⟩

theorem flatMap_utf8EncodeChar_lt {cs ds : List Char} (h : cs < ds) :
    cs.flatMap String.utf8EncodeChar < ds.flatMap String.utf8EncodeChar := by
  induction h with
  | nil =>
    rw [List.flatMap_cons, utf8EncodeChar_eq]
    exact List.nil_lt_cons _ _
  | rel h => exact utf8EncodeChar_append_lt h
  | cons _ ih => exact List.append_left_lt ih

/-- **Texts in the order of their characters are in the order of their bytes.** -/
theorem utf8_lt_of_lt (h : s < t) : utf8 s < utf8 t := by
  rw [utf8_eq_flatMap, utf8_eq_flatMap]
  exact flatMap_utf8EncodeChar_lt (String.lt_iff_toList_lt.1 h)

end DeclSynth.Text
