import DeclSynth.Naming
import DeclSynth.Proofs.Unicode.Lowercase
import DeclSynth.Token.Ident

/-!
# Words of a name

The words of a name are its characters without the underscores
(`flatten_wordsFrom`), none of them empty, and whether a name in snake case is an
identifier word is decided by its first word (`isWord_snake_append`). The mark of a raw
name stays in front of the first word (`exists_wordsFrom_raw`).
-/

namespace DeclSynth.Naming

open Unicode

variable {current cs : List Char} {w : List Char}

/-! ## Cutting -/

/-- **Words are the characters of a name without the underscores.** -/
theorem flatten_wordsFrom (current cs : List Char) :
    (wordsFrom current cs).flatten = current.reverse ++ cs.filter (· ≠ '_') := by
  -- along the cutting, which keeps the current word in reverse
  fun_induction wordsFrom current cs with
  | case1 => rfl
  | case2 previous earlier => simp
  | case3 rest ih => simpa using ih
  | case4 c rest hc ih => simpa [hc] using ih
  | case5 previous earlier rest ih => simpa using ih
  | case6 previous earlier c rest hc hstarts ih => simp [hc, ih]
  | case7 previous earlier c rest hc hstarts ih => simpa [hc] using ih

/-- No word is empty. -/
theorem ne_nil_of_mem_wordsFrom (h : w ∈ wordsFrom current cs) : w ≠ [] := by
  fun_induction wordsFrom current cs with
  | case1 => cases h
  | case2 previous earlier =>
    rw [List.mem_singleton.1 h]
    simp
  | case3 rest ih => exact ih h
  | case4 c rest hc ih => exact ih h
  | case5 previous earlier rest ih =>
    rcases List.mem_cons.1 h with rfl | h
    · simp
    · exact ih h
  | case6 previous earlier c rest hc hstarts ih =>
    rcases List.mem_cons.1 h with rfl | h
    · simp
    · exact ih h
  | case7 previous earlier c rest hc hstarts ih => exact ih h

/-- Words are made of the characters of the name, without the underscores. -/
theorem of_mem_wordsFrom {c : Char} (hw : w ∈ wordsFrom [] cs) (hc : c ∈ w) : c ∈ cs ∧ c ≠ '_' := by
  have hflatten := List.mem_flatten_of_mem hw hc
  rw [flatten_wordsFrom, List.reverse_nil, List.nil_append, List.mem_filter] at hflatten
  exact ⟨hflatten.1, of_decide_eq_true hflatten.2⟩

/-- No word has an underscore. -/
theorem not_mem_of_mem_wordsFrom (h : w ∈ wordsFrom [] cs) : '_' ∉ w :=
  fun hmem => (of_mem_wordsFrom h hmem).2 rfl

/-- The current word is what the first word begins with. -/
theorem exists_wordsFrom_current (hcurrent : current ≠ []) (cs : List Char) :
    ∃ more rest, wordsFrom current cs = (current.reverse ++ more) :: rest ∧
      more ++ rest.flatten = cs.filter (· ≠ '_') := by
  have hsplit : ∃ more rest, wordsFrom current cs = (current.reverse ++ more) :: rest := by
    fun_induction wordsFrom current cs with
    | case1 => exact absurd rfl hcurrent
    | case2 previous earlier => exact ⟨[], [], by simp⟩
    | case3 => exact absurd rfl hcurrent
    | case4 => exact absurd rfl hcurrent
    | case5 previous earlier rest ih => exact ⟨[], _, by rw [List.append_nil]⟩
    | case6 previous earlier c rest hc hstarts ih => exact ⟨[], _, by rw [List.append_nil]⟩
    | case7 previous earlier c rest hc hstarts ih =>
      obtain ⟨more, words, h⟩ := ih (List.cons_ne_nil _ _)
      exact ⟨c :: more, words, by rw [h]; simp⟩
  obtain ⟨more, rest, h⟩ := hsplit
  refine ⟨more, rest, h, ?_⟩
  have hflatten := flatten_wordsFrom current cs
  rw [h, List.flatten_cons, List.append_assoc] at hflatten
  exact List.append_cancel_left hflatten

/-- **The mark of a raw name stays in front of the first word**, which goes on with the name unless
that begins with an underscore. -/
theorem exists_wordsFrom_raw (cs : List Char) :
    ∃ more rest, wordsFrom [] ('r' :: '#' :: cs) = ('r' :: '#' :: more) :: rest ∧
      more ++ rest.flatten = cs.filter (· ≠ '_') ∧
      (more.head? = cs.head? ∨ (more = [] ∧ cs.head? = some '_')) := by
  have hmark : wordsFrom [] ('r' :: '#' :: cs) = wordsFrom ['#', 'r'] cs := by
    simp [wordsFrom, startsWord, show isUppercase '#' = false from by decide]
  cases cs with
  | nil => exact ⟨[], [], hmark, rfl, .inl rfl⟩
  | cons c cs =>
    rw [hmark]
    by_cases hc : c = '_'
    · subst hc
      refine ⟨[], wordsFrom [] cs, ?_, ?_, .inr ⟨rfl, rfl⟩⟩
      · simp [wordsFrom]
      · simpa using flatten_wordsFrom [] cs
    -- no word starts behind the mark, which has no case
    · have hgoes : wordsFrom ['#', 'r'] (c :: cs) = wordsFrom [c, '#', 'r'] cs := by
        have : startsWord '#' c cs.head? = false := by
          simp [startsWord, show isLowercase '#' = false from by decide,
            show isUppercase '#' = false from by decide, show '#'.isDigit = false from by decide]
        simp [wordsFrom, hc, this]
      have hcurrent : [c, '#', 'r'] ≠ [] := List.cons_ne_nil _ _
      obtain ⟨more, rest, h, hflatten⟩ := exists_wordsFrom_current hcurrent cs
      refine ⟨c :: more, rest, ?_, ?_, .inl rfl⟩
      · rw [hgoes, h]
        simp
      · simp [hc, hflatten]

/-- No word of a name is empty. -/
theorem ne_empty_of_mem_words {name word : String} (h : word ∈ words name) : word ≠ "" := by
  obtain ⟨cs, hcs, rfl⟩ := List.mem_map.1 h
  rw [ne_eq, String.ofList_eq_empty_iff]
  exact ne_nil_of_mem_wordsFrom hcs

/-- The remainder of a name, run together. -/
theorem toList_join_suffixRemainder (child parent : String) :
    (String.join (suffixRemainder child parent)).toList =
      ((wordsFrom [] child.toList).take
        ((words child).length - sharedSuffixLength child parent)).flatten := by
  rw [String.toList_join, suffixRemainder, words, ← List.map_take, List.flatMap_map]
  simp [List.flatMap_id']

/-! ## Snake case -/

/-- The characters of a name in snake case. -/
def snake (cs : List Char) : List Char :=
  List.intercalate ['_'] ((wordsFrom [] cs).map Unicode.lowercase)

theorem toList_toSnakeCase (name : String) : (toSnakeCase name).toList = snake name.toList := by
  rw [toSnakeCase, String.toList_intercalate, words, List.map_map, List.map_map, snake]
  congr 1
  exact List.map_congr_left fun w _ => by simp [lowercase]

/-- Texts behind a first one, each with an underscore before it. -/
theorem intercalate_cons {α : Type} (x : α) (first : List α) (rest : List (List α)) :
    List.intercalate [x] (first :: rest) = first ++ rest.flatMap (x :: ·) := by
  induction rest generalizing first with
  | nil => simp
  | cons second rest ih =>
    rw [List.intercalate_cons_cons, ih]
    simp

/-- Words in lower case, each with an underscore before it. -/
def underscored (words : List (List Char)) : List Char :=
  (words.map Unicode.lowercase).flatMap ('_' :: ·)

theorem snake_of_wordsFrom {first : List Char} {rest : List (List Char)}
    (h : wordsFrom [] cs = first :: rest) :
    snake cs = Unicode.lowercase first ++ underscored rest := by
  rw [snake, h, List.map_cons, intercalate_cons]
  rfl

theorem all_isIdentifierContinue_underscored {words : List (List Char)}
    (h : words.flatten.all isIdentifierContinue = true) :
    (underscored words).all isIdentifierContinue = true := by
  rw [List.all_eq_true]
  intro c hc
  obtain ⟨lower, hlower, hc⟩ := List.mem_flatMap.1 hc
  obtain ⟨word, hword, rfl⟩ := List.mem_map.1 hlower
  rcases List.mem_cons.1 hc with rfl | hc
  · rfl
  · have hcontinues : word.all isIdentifierContinue = true := List.all_eq_true.2 fun d hd =>
      List.all_eq_true.1 h d (List.mem_flatten_of_mem hword hd)
    exact List.all_eq_true.1 (all_isIdentifierContinue_lowercaseAfter hcontinues []) c hc

/-- **The first word decides**, with further words and an end behind it. -/
theorem isWord_underscored {first tail : List Char} {rest : List (List Char)}
    (hfirst : first.all isIdentifierContinue = true)
    (hrest : rest.flatten.all isIdentifierContinue = true) (htail : isWord tail = true)
    (before : List Char) :
    isWord (lowercaseAfter before first ++ underscored rest ++ tail) =
      first.head?.all isIdentifierStart := by
  have hmore : (underscored rest ++ tail).all isIdentifierContinue = true := by
    rw [List.all_append, all_isIdentifierContinue_underscored hrest,
      all_isIdentifierContinue_of_isWord htail]
    rfl
  rw [List.append_assoc]
  cases first with
  | nil =>
    cases rest with
    | nil => exact htail
    | cons second rest =>
      -- what comes next is the underscore before the second word
      have hstart : isIdentifierStart '_' = true := by decide
      have hjoined : underscored (second :: rest) =
          '_' :: (Unicode.lowercase second ++ underscored rest) := rfl
      rw [hjoined, List.cons_append, List.all_cons, Bool.and_eq_true] at hmore
      rw [hjoined, lowercaseAfter, List.nil_append, List.cons_append, isWord, hmore.2, hstart]
      rfl
  | cons c first =>
    have hword := isWord_lowercaseAfter hfirst before
    have hlower := all_isIdentifierContinue_lowercaseAfter hfirst before
    rw [List.all_cons, Bool.and_eq_true] at hfirst
    rw [isWord, hfirst.2, Bool.and_true] at hword
    rw [List.head?_cons, Option.all_some, ← hword]
    cases hcases : lowercaseAfter before (c :: first) with
    | nil => exact absurd hcases (lowercaseAfter_ne_nil hfirst.1 before)
    | cons d lower =>
      rw [hcases, List.all_cons, Bool.and_eq_true] at hlower
      rw [List.cons_append, isWord, isWord, List.all_append, hlower.2, hmore]
      rfl

theorem all_isIdentifierContinue_words (h : cs.all isIdentifierContinue = true) :
    (wordsFrom [] cs).flatten.all isIdentifierContinue = true := by
  rw [flatten_wordsFrom, List.all_eq_true]
  exact fun c hc => List.all_eq_true.1 h c (List.mem_filter.1 hc).1

/-- Snake case keeps identifier characters. -/
theorem all_isIdentifierContinue_snake (h : cs.all isIdentifierContinue = true) :
    (snake cs).all isIdentifierContinue = true := by
  have hcontinues := all_isIdentifierContinue_words h
  cases hwords : wordsFrom [] cs with
  | nil => simp [snake, hwords]
  | cons first rest =>
    rw [hwords, List.flatten_cons, List.all_append, Bool.and_eq_true] at hcontinues
    rw [snake_of_wordsFrom hwords, List.all_append, all_isIdentifierContinue_underscored
      hcontinues.2, Bool.and_true]
    exact all_isIdentifierContinue_lowercaseAfter hcontinues.1 []

/-- **A name in snake case starts as its first character does that is no underscore.** -/
theorem isWord_snake_append {tail : List Char} (h : cs.all isIdentifierContinue = true)
    (htail : isWord tail = true) :
    isWord (snake cs ++ tail) = (cs.find? (· ≠ '_')).all isIdentifierStart := by
  have hflatten := flatten_wordsFrom [] cs
  rw [List.reverse_nil, List.nil_append] at hflatten
  have hcontinues := all_isIdentifierContinue_words h
  cases hwords : wordsFrom [] cs with
  | nil =>
    rw [hwords, List.flatten_nil] at hflatten
    have hnone : cs.find? (· ≠ '_') = none := by
      rw [← List.head?_filter, ← hflatten]
      rfl
    rw [hnone, snake, hwords]
    simpa using htail
  | cons first rest =>
    rw [hwords, List.flatten_cons, List.all_append, Bool.and_eq_true] at hcontinues
    have hne : first ≠ [] := ne_nil_of_mem_wordsFrom (hwords ▸ List.mem_cons_self)
    have hhead : cs.find? (· ≠ '_') = first.head? := by
      rw [← List.head?_filter, ← hflatten, hwords, List.flatten_cons, List.head?_append]
      cases first with
      | nil => exact absurd rfl hne
      | cons c first => rfl
    rw [snake_of_wordsFrom hwords, hhead]
    exact isWord_underscored hcontinues.1 hcontinues.2 htail []

/-- **A raw name in snake case keeps its mark**, and goes on as it did. -/
theorem exists_snake_raw (h : cs.all isIdentifierContinue = true) :
    ∃ lower, snake ('r' :: '#' :: cs) = 'r' :: '#' :: lower ∧
      ∀ tail, isWord tail = true → isWord (lower ++ tail) = cs.head?.all isIdentifierStart := by
  obtain ⟨more, rest, hwords, hflatten, hhead⟩ := exists_wordsFrom_raw cs
  have hcontinues : (more ++ rest.flatten).all isIdentifierContinue = true := by
    rw [hflatten, List.all_eq_true]
    exact fun c hc => List.all_eq_true.1 h c (List.mem_filter.1 hc).1
  rw [List.all_append, Bool.and_eq_true] at hcontinues
  have hlower : Unicode.lowercase ('r' :: '#' :: more) =
      'r' :: '#' :: lowercaseAfter ['#', 'r'] more := by
    simp [Unicode.lowercase, lowercaseAfter, toLower, isAscii]
  refine ⟨lowercaseAfter ['#', 'r'] more ++ underscored rest, ?_, fun tail htail => ?_⟩
  · rw [snake_of_wordsFrom hwords, hlower]
    rfl
  · rw [isWord_underscored hcontinues.1 hcontinues.2 htail]
    rcases hhead with hhead | ⟨rfl, hhead⟩
    · rw [hhead]
    · rw [hhead]
      rfl

end DeclSynth.Naming
