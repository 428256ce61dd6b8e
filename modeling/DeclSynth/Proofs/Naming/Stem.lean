import DeclSynth.Proofs.Naming.Words

/-!
# Stems of derived names

The names of a role's discriminator and classifier are derived from its stem,
which is made of identifier characters, behind the mark of a raw name if the role
is one (`isStem_roleStem`). Dropping words and underscores can leave a stem that
begins with a digit, so not every stem is `Nameable`; the derived names are names
exactly where it is (`isName_derived_iff`).
-/

namespace DeclSynth.Naming

open Unicode Ident

variable {cs tail : List Char} {stem : String}

/-! ## Names -/

theorem append_eq_ofList (a b : String) : a ++ b = String.ofList (a.toList ++ b.toList) := by
  rw [String.ofList_append, String.ofList_toList, String.ofList_toList]

/-- Identifier characters are a name exactly where they are a word. -/
theorem isName_ofList (h : cs.all isIdentifierContinue = true) :
    isName (String.ofList cs) = isWord cs := by
  unfold isName
  split
  · rename_i word heq
    rw [String.toList_ofList] at heq
    subst heq
    simp [show isIdentifierContinue '#' = false from by decide] at h
  · rw [String.toList_ofList]

/-- Behind the mark of a raw name, they also have to be a word that may be raw. -/
theorem isName_ofList_raw (cs : List Char) :
    isName (String.ofList ('r' :: '#' :: cs)) =
      (isWord cs && !neverRaw.contains (String.ofList cs)) := by
  simp [isName]

/-- A text is none of the words that it does not end like. -/
theorem not_mem_of_suffix {words : List String} (h : ∀ w ∈ words, ¬ tail <:+ w.toList)
    (cs : List Char) : words.contains (String.ofList (cs ++ tail)) = false := by
  refine Bool.eq_false_iff.2 fun hmem => ?_
  have := h _ (List.contains_iff_mem.1 hmem)
  rw [String.toList_ofList] at this
  exact this (List.suffix_append cs tail)

/-- A text is none of the words that it does not begin like. -/
theorem not_mem_of_prefix {head : List Char} {words : List String}
    (h : ∀ w ∈ words, ¬ head <+: w.toList) (cs : List Char) :
    words.contains (String.ofList (head ++ cs)) = false := by
  refine Bool.eq_false_iff.2 fun hmem => ?_
  have := h _ (List.contains_iff_mem.1 hmem)
  rw [String.toList_ofList] at this
  exact this (List.prefix_append head cs)

/-! ## Stems -/

/-- The characters that derived names begin with. -/
inductive IsStem : List Char → Prop
  | plain {cs : List Char} (ne_nil : cs ≠ []) (continues : cs.all isIdentifierContinue = true) :
    IsStem cs
  | raw {cs : List Char} (continues : cs.all isIdentifierContinue = true) :
    IsStem ('r' :: '#' :: cs)

theorem isStem_text (name : Ident) : IsStem name.text.toList := by
  obtain ⟨text, span, valid⟩ := name
  unfold isName at valid
  split at valid
  · rename_i word heq
    rw [Bool.and_eq_true] at valid
    exact heq ▸ .raw (all_isIdentifierContinue_of_isWord valid.1)
  · refine .plain ?_ (all_isIdentifierContinue_of_isWord valid)
    intro hnil
    rw [hnil] at valid
    cases valid

/-- The first words of a stem, run together, are a stem. -/
theorem IsStem.take (h : IsStem cs) {n : Nat} (hne : (wordsFrom [] cs).take n ≠ []) :
    IsStem ((wordsFrom [] cs).take n).flatten := by
  have hkept : ∀ ws : List (List Char), ws.flatten.all isIdentifierContinue = true →
      ∀ n, (ws.take n).flatten.all isIdentifierContinue = true := fun ws hws n =>
    List.all_eq_true.2 fun c hc => by
      obtain ⟨w, hw, hc⟩ := List.mem_flatten.1 hc
      exact List.all_eq_true.1 hws c (List.mem_flatten_of_mem (List.mem_of_mem_take hw) hc)
  cases h with
  | plain _ continues =>
    refine .plain ?_ (hkept _ ?_ n)
    · intro hnil
      obtain ⟨w, hw⟩ := List.exists_mem_of_ne_nil _ hne
      have hempty := List.flatten_eq_nil_iff.1 hnil w hw
      exact ne_nil_of_mem_wordsFrom (List.take_subset n _ hw) hempty
    · exact all_isIdentifierContinue_words continues
  | @raw cs continues =>
    obtain ⟨more, rest, hwords, hflatten, -⟩ := exists_wordsFrom_raw cs
    -- the mark is part of the first word, so it is there if any word is taken
    cases n with
    | zero => exact absurd rfl hne
    | succ n =>
      rw [hwords, List.take_succ_cons, List.flatten_cons]
      have hall : (more ++ rest.flatten).all isIdentifierContinue = true := by
        rw [hflatten, List.all_eq_true]
        exact fun c hc => List.all_eq_true.1 continues c (List.mem_filter.1 hc).1
      rw [List.all_append, Bool.and_eq_true] at hall
      have hmore : (more ++ (rest.take n).flatten).all isIdentifierContinue = true := by
        rw [List.all_append, hall.1, hkept _ hall.2 n]
        rfl
      exact .raw hmore

/-- **What a role's own names start with is a stem.** -/
theorem isStem_roleStem (role : Ident) (base : String) :
    IsStem (roleStem role.text base).toList := by
  have hrole := isStem_text role
  unfold roleStem
  split
  · exact hrole
  · rename_i hne
    rw [toList_join_suffixRemainder]
    refine hrole.take fun hnil => hne ?_
    rw [suffixRemainder, words, ← List.map_take]
    exact List.map_eq_nil_iff.2 hnil

/-! ## Derived names -/

/-- Whether a stem begins as names do, behind the mark of a raw name, or else behind any
underscores. -/
def Nameable (stem : String) : Bool :=
  match stem.toList with
  | 'r' :: '#' :: cs => cs.head?.all isIdentifierStart
  | cs => (cs.find? (· ≠ '_')).all isIdentifierStart

theorem nameable_plain (hstem : stem.toList = cs) (h : cs.all isIdentifierContinue = true) :
    Nameable stem = (cs.find? (· ≠ '_')).all isIdentifierStart := by
  unfold Nameable
  split
  · rename_i word heq
    rw [← hstem, heq] at h
    simp [show isIdentifierContinue '#' = false from by decide] at h
  · rw [hstem]

/-- **With an end that is a word, a stem that begins as names do is a name.** -/
theorem isName_append (h : IsStem stem.toList) (hn : Nameable stem = true)
    (htail : isWord tail = true) (hraw : ∀ w ∈ neverRaw, ¬ tail <:+ w.toList) :
    isName (stem ++ String.ofList tail) = true := by
  have hends := all_isIdentifierContinue_of_isWord htail
  rw [append_eq_ofList, String.toList_ofList]
  generalize hcs : stem.toList = cs at h
  cases h with
  | plain ne_nil continues =>
    rw [nameable_plain hcs continues] at hn
    have hword : isWord cs = true := by
      cases cs with
      | nil => exact absurd rfl ne_nil
      | cons c cs =>
        rw [List.all_cons, Bool.and_eq_true] at continues
        rw [isWord, continues.2, Bool.and_true]
        by_cases hc : c = '_'
        · rw [hc]
          rfl
        · simpa [hc] using hn
    exact isName_ofList_of_isWord (isWord_append hword hends)
  | @raw cs continues =>
    unfold Nameable at hn
    rw [hcs] at hn
    rw [List.cons_append, List.cons_append, isName_ofList_raw, not_mem_of_suffix hraw,
      Bool.not_false, Bool.and_true]
    -- nothing may be left behind the mark, and then the end is all that follows it
    cases cs with
    | nil => exact htail
    | cons c cs =>
      rw [List.all_cons, Bool.and_eq_true] at continues
      refine isWord_append ?_ hends
      rw [isWord, continues.2, Bool.and_true]
      simpa using hn

/-- **A classifier's name is a name exactly where its stem begins as names do.** -/
theorem isName_classifierName (h : IsStem stem.toList) :
    isName (classifierName stem) = Nameable stem := by
  have htail : isWord "_type".toList = true := by decide
  rw [classifierName, append_eq_ofList, toList_toSnakeCase]
  generalize hcs : stem.toList = cs at h
  cases h with
  | plain ne_nil continues =>
    rw [nameable_plain hcs continues, isName_ofList, isWord_snake_append continues htail]
    rw [List.all_append, all_isIdentifierContinue_snake continues,
      all_isIdentifierContinue_of_isWord htail]
    rfl
  | @raw cs continues =>
    obtain ⟨lower, hlower, hword⟩ := exists_snake_raw continues
    rw [hlower, List.cons_append, List.cons_append, isName_ofList_raw, hword _ htail,
      not_mem_of_suffix (by decide), Bool.not_false, Bool.and_true]
    unfold Nameable
    rw [hcs]
    rfl

/-- **Both names that are derived from a role are names exactly where its stem begins as names
do.** -/
theorem isName_derived_iff (role : Ident) (base : String) :
    isName (discriminatorName role.text base "SealedType") = true ∧
        isName (classifierName (roleStem role.text base)) = true ↔
      Nameable (roleStem role.text base) = true := by
  have hstem := isStem_roleStem role base
  rw [isName_classifierName hstem]
  refine ⟨And.right, fun hn => ⟨?_, hn⟩⟩
  have htail : isWord "SealedType".toList = true := by decide
  exact isName_append hstem hn htail (by decide)

end DeclSynth.Naming
