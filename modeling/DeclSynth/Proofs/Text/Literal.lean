import DeclSynth.Text.Quoted
import DeclSynth.Token.Literal

/-!
# What a string literal holds

A text is written as a literal one character at a time, and the literal is read
the same way: what `Text.escape` writes for a character is read back as that
character, wherever it stands. So the content of the literal of a text is the
text (`content_literal`), and texts that differ have literals that differ.
-/

namespace DeclSynth.Literal

open Text (escape hexDigits literalChars)

variable {c : Char} {rest : List Char}

/-! ## Code points -/

/-- A hexadecimal digit has the value that it is written for. -/
theorem hexDigit?_digitChar {d : Nat} (hd : d < 16) : Unicode.hexDigit? d.digitChar = some d := by
  have hall : ∀ d : Fin 16, Unicode.hexDigit? (Nat.digitChar d) = some d.val := by decide
  exact hall ⟨d, hd⟩

/-- A digit is read onto the digits before it. -/
theorem cooked_digit {d : Nat} (hd : d < 16) (value : Nat) :
    cooked (.codePoint value) (d.digitChar :: rest) =
      cooked (.codePoint (value * 16 + d)) rest := by
  have hbrace : d.digitChar ≠ '\x7d' := by
    have hall : ∀ d : Fin 16, Nat.digitChar d ≠ '\x7d' := by decide
    exact hall ⟨d, hd⟩
  rw [cooked]
  simp only [hbrace, ↓reduceIte, hexDigit?_digitChar hd]

/-- **The digits of a number are read as the number.** -/
theorem cooked_hexDigits (n : Nat) (rest : List Char) :
    cooked (.codePoint 0) (hexDigits n ++ rest) = cooked (.codePoint n) rest := by
  unfold hexDigits
  induction n using Nat.strongRecOn generalizing rest with
  | ind n ih =>
    rcases Nat.lt_or_ge n 16 with hsmall | hlarge
    · rw [Nat.toDigits_of_lt_base hsmall, List.singleton_append, cooked_digit hsmall]
      simp
    -- the last digit is read behind those of the quotient
    · rw [Nat.toDigits_of_base_le (by decide) hlarge, List.append_assoc, List.singleton_append,
        ih (n / 16) (by omega), cooked_digit (by omega)]
      congr 2
      omega

/-! ## Characters -/

/-- **What is written for a character is read as the character.** -/
theorem cooked_escape (c : Char) (rest : List Char) :
    cooked .plain (escape c ++ rest) = c :: cooked .plain rest := by
  unfold escape
  split
  · subst c; rfl
  split
  · subst c; rfl
  split
  · subst c; rfl
  split
  · subst c; rfl
  split
  · subst c; rfl
  split
  · subst c; rfl
  split
  -- a character that prints is neither a quote nor the start of an escape
  · rename_i hreturn _ hslash hquote _
    rw [List.singleton_append, cooked]
    simp only [hquote, hreturn, hslash, ↓reduceIte]
  · have hopen : cooked .plain ('\\' :: 'u' :: '\x7b' :: (hexDigits c.toNat ++ '\x7d' :: rest)) =
        cooked (.codePoint 0) (hexDigits c.toNat ++ '\x7d' :: rest) := by
      simp [cooked]
    have hclose : cooked (.codePoint c.toNat) ('\x7d' :: rest) =
        Char.ofNat c.toNat :: cooked .plain rest := by
      simp [cooked]
    simp only [List.append_assoc, List.cons_append, List.nil_append]
    rw [hopen, cooked_hexDigits, hclose, Char.ofNat_toNat]

/-- A null that is written in full is read as a null. -/
theorem cooked_null (rest : List Char) :
    cooked .plain ('\\' :: 'x' :: '0' :: '0' :: rest) = '\x00' :: cooked .plain rest := rfl

/-- What is written for characters is read as them, up to the closing quote. -/
theorem cooked_literalChars (cs : List Char) : cooked .plain (literalChars cs ++ ['"']) = cs := by
  induction cs with
  | nil => rfl
  | cons c rest ih =>
    unfold literalChars
    split
    · rename_i hnull
      simp only [Bool.and_eq_true, decide_eq_true_eq] at hnull
      obtain ⟨rfl, -⟩ := hnull
      simp only [List.cons_append, List.nil_append]
      rw [cooked_null, ih]
    · rw [List.append_assoc, cooked_escape, ih]

/-- **The content of the literal of a text is the text.** -/
@[simp] theorem content_literal (text : String) : content (Text.literal text) = text := by
  unfold content Text.literal
  rw [String.toList_ofList]
  change String.ofList (cooked .plain (literalChars text.toList ++ ['"'])) = text
  rw [cooked_literalChars, String.ofList_toList]

end DeclSynth.Literal
