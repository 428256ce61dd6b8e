import DeclSynth.Token

/-!
# Equality of tokens

Whether two tokens are the same one is decided by their parts, those of a group by
the tokens in it (`Token.same_iff`).
-/

namespace DeclSynth.Token

mutual

/-- Whether two tokens are the same one. -/
def same : Token → Token → Bool
  | word text span, word text' span' => text == text' && span == span'
  | punct char joint span, punct char' joint' span' =>
    char == char' && joint == joint' && span == span'
  | literal text span, literal text' span' => text == text' && span == span'
  | group delimiter body span, group delimiter' body' span' =>
    delimiter == delimiter' && sameAll body body' && span == span'
  | _, _ => false

/-- Whether two sequences have the same tokens. -/
def sameAll : List Token → List Token → Bool
  | [], [] => true
  | t :: rest, t' :: rest' => same t t' && sameAll rest rest'
  | _, _ => false

end

mutual

/-- **The tokens that have the same parts are equal.** -/
theorem same_iff (t t' : Token) : same t t' = true ↔ t = t' := by
  cases t with
  | group delimiter body span =>
    cases t' with
    | group delimiter' body' span' => simp [same, sameAll_iff body body', and_assoc]
    | _ => simp [same]
  | _ => cases t' <;> simp [same, and_assoc]

theorem sameAll_iff (ts ts' : List Token) : sameAll ts ts' = true ↔ ts = ts' := by
  cases ts with
  | nil => cases ts' <;> simp [sameAll]
  | cons t rest =>
    cases ts' with
    | nil => simp [sameAll]
    | cons t' rest' => simp [sameAll, same_iff t t', sameAll_iff rest rest']

end

instance : DecidableEq Token := fun t t' => decidable_of_iff _ (same_iff t t')

end DeclSynth.Token
