import DeclSynth.Proofs.Naming.Splitting

/-!
# What a name does not share

The remainder of a name is what its words begin with before the longest end that
they share with the words of another name (`words_eq_remainder_append`). The stem of
a role is its remainder run together, or the whole role, and its words are what it
was made of (`words_roleStem`), as no boundary moves where a name is cut off. So
stems are never empty and are told apart by the names derived from them
(`roleStem_derived`).
-/

namespace DeclSynth.Naming

/-! ## Common ends -/

section Shared

variable {α : Type} [DecidableEq α] {zs : List α}

theorem sharedPrefixLength_le (xs ys : List α) : sharedPrefixLength xs ys ≤ xs.length := by
  fun_induction sharedPrefixLength xs ys with
  | case1 xs y ys ih => exact Nat.succ_le_succ ih
  | case2 => exact Nat.zero_le _
  | case3 => exact Nat.zero_le _

/-- The common prefix is one of both lists. -/
theorem take_sharedPrefixLength_prefix (xs ys : List α) :
    xs.take (sharedPrefixLength xs ys) <+: ys := by
  fun_induction sharedPrefixLength xs ys with
  | case1 xs y ys ih =>
    rw [List.take_succ_cons, List.cons_prefix_cons]
    exact ⟨rfl, ih⟩
  | case2 => exact List.nil_prefix
  | case3 => exact List.nil_prefix

/-- **No common prefix is longer.** -/
theorem length_le_sharedPrefixLength {xs ys : List α} (hx : zs <+: xs) (hy : zs <+: ys) :
    zs.length ≤ sharedPrefixLength xs ys := by
  fun_induction sharedPrefixLength xs ys generalizing zs with
  | case1 xs y ys ih =>
    cases zs with
    | nil => exact Nat.zero_le _
    | cons z zs =>
      exact Nat.succ_le_succ (ih (List.cons_prefix_cons.1 hx).2 (List.cons_prefix_cons.1 hy).2)
  | case2 x xs y ys hxy =>
    cases zs with
    | nil => exact Nat.le_refl _
    | cons z zs =>
      have hzx := (List.cons_prefix_cons.1 hx).1
      have hzy := (List.cons_prefix_cons.1 hy).1
      exact absurd (hzx.symm.trans hzy) hxy
  | case3 xs ys hnil =>
    cases zs with
    | nil => exact Nat.le_refl _
    | cons z zs =>
      obtain ⟨xs', rfl⟩ := hx
      obtain ⟨ys', rfl⟩ := hy
      exact absurd rfl (hnil z _ z _ rfl)

end Shared

/-- **A name is its remainder followed by the longest end that its words share with those of another
name.** -/
theorem words_eq_remainder_append (child parent : String) :
    sharedSuffixLength child parent ≤ (words child).length ∧
    ∃ shared, words child = suffixRemainder child parent ++ shared ∧
      shared.length = sharedSuffixLength child parent ∧ shared <:+ words parent ∧
      ∀ common, common <:+ words child → common <:+ words parent → common <:+ shared := by
  have hle : sharedSuffixLength child parent ≤ (words child).length := by
    rw [sharedSuffixLength, ← List.length_reverse]
    exact sharedPrefixLength_le _ _
  have hlength : ((words child).drop
      ((words child).length - sharedSuffixLength child parent)).length =
      sharedSuffixLength child parent := by
    rw [List.length_drop]
    omega
  refine ⟨hle, _, ?_, hlength, ?_, fun common hchild hparent => ?_⟩
  · rw [suffixRemainder, List.take_append_drop]
  · have hprefix := take_sharedPrefixLength_prefix (words child).reverse (words parent).reverse
    rwa [List.take_reverse, List.reverse_prefix] at hprefix
  · refine List.suffix_of_suffix_length_le hchild (List.drop_suffix _ _) ?_
    have hshared := length_le_sharedPrefixLength (List.reverse_prefix.2 hchild)
      (List.reverse_prefix.2 hparent)
    rwa [hlength, ← List.length_reverse]

/-- `NavigationAction` and the longer `LevelUpgradeViewAction` share `Action`. -/
theorem words_eq_remainder_append_action :
    sharedSuffixLength "NavigationAction" "LevelUpgradeViewAction" ≤
      (words "NavigationAction").length ∧
    ∃ shared, words "NavigationAction" =
        suffixRemainder "NavigationAction" "LevelUpgradeViewAction" ++ shared ∧
      ["Action"] <:+ shared ∧ shared <:+ words "LevelUpgradeViewAction" := by
  obtain ⟨hle, shared, hwords, -, hparent, hlongest⟩ :=
    words_eq_remainder_append "NavigationAction" "LevelUpgradeViewAction"
  exact ⟨hle, shared, hwords, hlongest ["Action"] (by decide) (by decide), hparent⟩

/-! ## Stems -/

/-- What the stem of a role is made of: its remainder, or all its words if nothing is left of
them. -/
def stemWords (role base : String) : List String :=
  if suffixRemainder role base = [] then words role else suffixRemainder role base

/-- **A role has a stem.** -/
theorem roleStem_ne_empty {role : String} (h : role ≠ "") (base : String) :
    roleStem role base ≠ "" := by
  unfold roleStem
  split
  · exact h
  · rename_i hne
    obtain ⟨w, hw⟩ := List.exists_mem_of_ne_nil _ hne
    intro hempty
    have hjoin := congrArg String.toList hempty
    rw [String.toList_join, String.toList_empty, List.flatMap_eq_nil_iff] at hjoin
    exact ne_empty_of_mem_words (List.take_subset _ _ hw) (String.toList_eq_nil_iff.1 (hjoin w hw))

/-- **Splitting the stem of a role again gives back what it was made of**, if the role has no
underscores. -/
theorem words_roleStem {role : String} (h : '_' ∉ role.toList) (base : String) :
    words (roleStem role base) = stemWords role base := by
  unfold roleStem stemWords
  split
  · rename_i hnil
    rw [if_pos hnil]
  · rename_i hne
    rw [if_neg hne, words, toList_join_suffixRemainder, wordsFrom_flatten_take h, suffixRemainder,
      words, List.map_take]

theorem discriminatorName_ne_suffix {role : String} (h : role ≠ "") (base suffix : String) :
    discriminatorName role base suffix ≠ suffix := by
  intro heq
  have hlist := congrArg String.toList heq
  rw [discriminatorName, String.toList_append, List.append_left_eq_self] at hlist
  exact roleStem_ne_empty h base (String.toList_eq_nil_iff.1 hlist)

theorem discriminatorName_eq_iff {role other base suffix : String} :
    discriminatorName role base suffix = discriminatorName other base suffix ↔
      roleStem role base = roleStem other base := by
  rw [discriminatorName, discriminatorName, ← String.toList_inj, String.toList_append,
    String.toList_append, List.append_cancel_right_eq, String.toList_inj]

/-- **Stems and the names derived from them.** A stem is never empty, so no discriminator is called
by the bare suffix; discriminators are told apart by the stems of their roles; and the stem of a
role without underscores has the words that it was made of, which in lower case are those of the
classifier. -/
theorem roleStem_derived (role base suffix : String) (hrole : role ≠ "") :
    roleStem role base ≠ "" ∧ discriminatorName role base suffix ≠ suffix ∧
    (∀ other, discriminatorName role base suffix = discriminatorName other base suffix ↔
      roleStem role base = roleStem other base) ∧
    ('_' ∉ role.toList → words (roleStem role base) = stemWords role base ∧
      classifierName (roleStem role base) =
        "_".intercalate ((stemWords role base).map lowercase) ++ "_type") := by
  refine ⟨roleStem_ne_empty hrole base, discriminatorName_ne_suffix hrole base suffix,
    fun other => discriminatorName_eq_iff, fun hplain => ?_⟩
  have hwords := words_roleStem hplain base
  exact ⟨hwords, by rw [classifierName, toSnakeCase, hwords]⟩

/-- The stem of `HTTPViewAction` under `ViewAction` is cut before a capital that a small letter
followed. -/
theorem roleStem_derived_http :
    discriminatorName "HTTPViewAction" "ViewAction" "SealedType" ≠ "SealedType" ∧
      words (roleStem "HTTPViewAction" "ViewAction") = ["HTTP"] ∧
      classifierName (roleStem "HTTPViewAction" "ViewAction") = "http_type" := by
  obtain ⟨-, hbare, -, hsplit⟩ :=
    roleStem_derived "HTTPViewAction" "ViewAction" "SealedType" (by decide)
  obtain ⟨hwords, hclassifier⟩ := hsplit (by decide)
  have hstem : stemWords "HTTPViewAction" "ViewAction" = ["HTTP"] := by decide
  rw [hstem] at hwords hclassifier
  exact ⟨hbare, hwords, hclassifier⟩

end DeclSynth.Naming
