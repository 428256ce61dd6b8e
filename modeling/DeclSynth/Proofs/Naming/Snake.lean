import DeclSynth.Proofs.Naming.Words

/-!
# Snake case tells words apart

No lower case is empty, and none brings an underscore in: this is read off the table,
which is computed with once (`exists_avoids`). So the words of a name in snake case are
still told apart by the underscores between them, and two names have the same snake case
exactly where they have the same words in lower case (`toSnakeCase_eq_iff`).
-/

namespace DeclSynth

namespace Unicode

variable {c d : Char} {cs : List Char} {n : Nat}

/-! ## The table -/

/-- Whether an entry sends its points to something, and nothing to a code point. -/
def MapEntry.avoids (n : Nat) (m : MapEntry) : Bool :=
  match m.image with
  | [] => false
  | [target] => n < target || target + (m.range.hi - m.range.lo) < n
  | image => !image.contains n

set_option maxRecDepth 100000 in
/-- No entry of the table is sent to nothing or to the underscore. -/
theorem exists_avoids : ∃ lowers, toLowerText = String.ofList lowers ∧
    (entriesOf lowers).all (·.avoids '_'.toNat) = true :=
  ⟨_, rfl, by decide +kernel⟩

theorem avoids_of_mem {m : MapEntry} (h : m ∈ toLowerMap.entries.toList) :
    m.avoids '_'.toNat = true := by
  obtain ⟨lowers, hlowers, havoids⟩ := exists_avoids
  rw [toLowerMap, entries_ofText, hlowers, String.toList_ofList] at h
  exact List.all_eq_true.1 havoids m h

theorem MapEntry.imageAt_of_avoids {m : MapEntry} {k : Nat} (h : m.avoids n = true)
    (hk : m.range.contains k = true) : m.imageAt k ≠ [] ∧ n ∉ m.imageAt k := by
  simp only [CodeRange.contains, Bool.and_eq_true, decide_eq_true_eq] at hk
  unfold avoids at h
  unfold imageAt
  rcases himage : m.image with - | ⟨target, - | ⟨second, more⟩⟩
  · simp [himage] at h
  · simp only [himage, Bool.or_eq_true, decide_eq_true_eq] at h
    refine ⟨List.cons_ne_nil _ _, ?_⟩
    rw [List.mem_singleton]
    omega
  · exact ⟨List.cons_ne_nil _ _, by simpa [himage] using h⟩

/-! ## Characters -/

theorem eq_of_ofNat_eq_underscore (h : Char.ofNat n = '_') : n = '_'.toNat := by
  unfold Char.ofNat at h
  by_cases hvalid : n.isValidChar
  · rw [dif_pos hvalid] at h
    exact congrArg Char.toNat h
  · rw [dif_neg hvalid] at h
    exact absurd h (by decide)

/-- **The lower case of a character is something**, and an underscore only in that of one. -/
theorem toLower_spec (c : Char) : toLower c ≠ [] ∧ ('_' ∈ toLower c → c = '_') := by
  unfold toLower
  split
  · rename_i hc
    refine ⟨List.cons_ne_nil _ _, fun hmem => ?_⟩
    exact of_isAscii (p := fun c => '_' = c.toLower → c = '_') (by decide) hc
      (List.mem_singleton.1 hmem)
  · split
    · rename_i image himage
      obtain ⟨m, hm, hn, rfl⟩ := RangeMap.exists_of_find? himage
      obtain ⟨hne, havoids⟩ := MapEntry.imageAt_of_avoids (avoids_of_mem hm) hn
      refine ⟨by simpa using hne, fun hmem => ?_⟩
      obtain ⟨k, hk, hunderscore⟩ := List.mem_map.1 hmem
      exact absurd (eq_of_ofNat_eq_underscore hunderscore ▸ hk) havoids
    · exact ⟨List.cons_ne_nil _ _, fun hmem => (List.mem_singleton.1 hmem).symm⟩

/-- What stands for a character of a text in its lower case. -/
theorem exists_image (before : List Char) (c : Char) (cs : List Char) :
    ∃ image, lowercaseAfter before (c :: cs) = image ++ lowercaseAfter (c :: before) cs ∧
      image ≠ [] ∧ ('_' ∈ image → c = '_') := by
  refine ⟨_, lowercaseAfter.eq_2 .., ?_⟩
  split
  · split <;> simp
  · exact toLower_spec c

theorem lowercase_eq_nil_iff : lowercase cs = [] ↔ cs = [] := by
  refine ⟨fun h => ?_, fun h => by rw [h]; rfl⟩
  cases cs with
  | nil => rfl
  | cons c cs =>
    obtain ⟨image, heq, hne, -⟩ := exists_image [] c cs
    rw [lowercase, heq] at h
    exact absurd (List.append_eq_nil_iff.1 h).1 hne

theorem not_mem_lowercaseAfter (h : '_' ∉ cs) (before : List Char) :
    '_' ∉ lowercaseAfter before cs := by
  induction cs generalizing before with
  | nil => exact List.not_mem_nil
  | cons c cs ih =>
    obtain ⟨image, heq, -, hmem⟩ := exists_image before c cs
    rw [List.mem_cons, not_or] at h
    rw [heq, List.mem_append, not_or]
    exact ⟨fun himage => h.1 (hmem himage).symm, ih h.2 _⟩

end Unicode

namespace Naming

variable {cs ds w : List Char}

/-! ## Names -/

/-- The words of a name in lower case. -/
def lowerWords (cs : List Char) : List (List Char) := (wordsFrom [] cs).map Unicode.lowercase

theorem not_mem_of_mem_lowerWords (h : w ∈ lowerWords cs) : '_' ∉ w := by
  obtain ⟨word, hword, rfl⟩ := List.mem_map.1 h
  exact Unicode.not_mem_lowercaseAfter (not_mem_of_mem_wordsFrom hword) []

/-- The underscores in snake case stand where the words of the name were cut. -/
theorem splitOn_snake (h : wordsFrom [] cs ≠ []) : (snake cs).splitOn '_' = lowerWords cs :=
  List.splitOn_intercalate '_' (fun _ hw => not_mem_of_mem_lowerWords hw)
    (by simpa [lowerWords] using h)

theorem snake_eq_nil_iff : snake cs = [] ↔ wordsFrom [] cs = [] := by
  constructor
  · intro h
    cases hwords : wordsFrom [] cs with
    | nil => rfl
    | cons first rest =>
      rw [snake_of_wordsFrom hwords, List.append_eq_nil_iff, Unicode.lowercase_eq_nil_iff] at h
      exact absurd h.1 (ne_nil_of_mem_wordsFrom (hwords ▸ List.mem_cons_self))
  · intro h
    simp [snake, h]

/-- **Names have the same snake case exactly where they have the same words in lower case.** -/
theorem snake_eq_snake_iff : snake cs = snake ds ↔ lowerWords cs = lowerWords ds := by
  refine ⟨fun h => ?_, fun h => by rw [snake, snake, ← lowerWords, h, lowerWords]⟩
  by_cases hnil : wordsFrom [] cs = []
  · have hnil' : wordsFrom [] ds = [] := by
      rwa [← snake_eq_nil_iff, ← h, snake_eq_nil_iff]
    rw [lowerWords, lowerWords, hnil, hnil']
  · have hnil' : wordsFrom [] ds ≠ [] := by
      rwa [ne_eq, ← snake_eq_nil_iff, ← h, snake_eq_nil_iff]
    rw [← splitOn_snake hnil, h, splitOn_snake hnil']

theorem toList_lowerWords (name : String) :
    ((words name).map lowercase).map String.toList = lowerWords name.toList := by
  simp [words, lowercase, lowerWords, Function.comp_def]

/-- **Two names have the same snake case exactly where they have the same words in lower case.** -/
theorem toSnakeCase_eq_iff {a b : String} :
    toSnakeCase a = toSnakeCase b ↔ (words a).map lowercase = (words b).map lowercase := by
  rw [← String.toList_inj, toList_toSnakeCase, toList_toSnakeCase, snake_eq_snake_iff,
    ← toList_lowerWords, ← toList_lowerWords]
  exact List.map_inj_right fun _ _ => String.toList_inj.1

end Naming

end DeclSynth
