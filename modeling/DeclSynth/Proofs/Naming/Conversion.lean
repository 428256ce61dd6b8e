import DeclSynth.Proofs.Naming.Snake
import DeclSynth.Proofs.Naming.Splitting

/-!
# Case conversions

In ASCII the lower case has no capitals, so a name in snake case has the words of the
name in lower case and is in snake case already; and a name in camel case is in camel
case already, as its words begin with the capitals that it was given
(`conversion_laws`). Snake case undoes camel case on names of words with two letters
in front: their ends are told by a small letter or a digit before a capital.
-/

namespace DeclSynth

namespace Unicode

variable {c : Char} {cs : List Char}

/-! ## ASCII characters -/

theorem isUppercase_toLower (h : isAscii c = true) : isUppercase c.toLower = false :=
  of_isAscii (p := fun c => isUppercase c.toLower = false) (by decide) h

theorem toLower_toLower (h : isAscii c = true) : c.toLower.toLower = c.toLower :=
  of_isAscii (p := fun c => c.toLower.toLower = c.toLower) (by decide) h

theorem isAscii_toLower (h : isAscii c = true) : isAscii c.toLower = true :=
  of_isAscii (p := fun c => isAscii c.toLower = true) (by decide) h

theorem isAscii_toUpper (h : isAscii c = true) : isAscii c.toUpper = true :=
  of_isAscii (p := fun c => isAscii c.toUpper = true) (by decide) h

theorem toUpper_toUpper (h : isAscii c = true) : c.toUpper.toUpper = c.toUpper :=
  of_isAscii (p := fun c => c.toUpper.toUpper = c.toUpper) (by decide) h

theorem toUpper_of_isUppercase (h : isAscii c = true) : isUppercase c = true → c.toUpper = c :=
  of_isAscii (p := fun c => isUppercase c = true → c.toUpper = c) (by decide) h

theorem eq_underscore_of_toUpper (h : isAscii c = true) : c.toUpper = '_' → c = '_' :=
  of_isAscii (p := fun c => c.toUpper = '_' → c = '_') (by decide) h

theorem lowercaseAfter_of_isAscii (h : cs.all isAscii = true) (before : List Char) :
    lowercaseAfter before cs = cs.map Char.toLower := by
  induction cs generalizing before with
  | nil => rfl
  | cons c cs ih =>
    rw [List.all_cons, Bool.and_eq_true] at h
    have hsigma : c ≠ 'Σ' := by
      rintro rfl
      exact absurd h.1 (by decide)
    rw [lowercaseAfter, if_neg hsigma, ih h.2, toLower, if_pos h.1]
    rfl

theorem lowercase_of_isAscii (h : cs.all isAscii = true) : lowercase cs = cs.map Char.toLower :=
  lowercaseAfter_of_isAscii h []

end Unicode

namespace Naming

open Unicode

variable {cs w : List Char} {ws : List (List Char)} {c : Char}

/-! ## Texts that are one word -/

/-- A text that stays in one piece, whatever is in front of it: it has no underscores, and no
capitals behind its first character. -/
def Uncut (w : List Char) : Prop :=
  ∃ c rest, w = c :: rest ∧ c ≠ '_' ∧ ∀ d ∈ rest, d ≠ '_' ∧ isUppercase d = false

theorem Uncut.wordsFrom_eq (h : Uncut w) : wordsFrom [] w = [w] := by
  obtain ⟨c, rest, rfl, hc, hrest⟩ := h
  rw [wordsFrom, if_neg hc, wordsFrom_of_no_capital (List.cons_ne_nil _ _) hrest]
  rfl

theorem Uncut.ne_nil (h : Uncut w) : w ≠ [] := by
  obtain ⟨c, rest, rfl, -⟩ := h
  exact List.cons_ne_nil _ _

theorem Uncut.not_mem (h : Uncut w) : '_' ∉ w := by
  obtain ⟨c, rest, rfl, hc, hrest⟩ := h
  rw [List.mem_cons, not_or]
  exact ⟨fun heq => hc heq.symm, fun hmem => (hrest _ hmem).1 rfl⟩

theorem Uncut.of_no_capital (hne : w ≠ []) (h : ∀ d ∈ w, d ≠ '_' ∧ isUppercase d = false) :
    Uncut w := by
  cases w with
  | nil => exact absurd rfl hne
  | cons c rest =>
    exact ⟨c, rest, rfl, (h c List.mem_cons_self).1, fun d hd => h d (List.mem_cons_of_mem c hd)⟩

/-- A text that is one word, in front of one that ends it. -/
theorem Uncut.wordsFrom_append {back : List Char} (h : Uncut w)
    (hback : ∀ p ∈ w.getLast?, Breaks p back) :
    wordsFrom [] (w ++ back) = w :: wordsFrom [] back := by
  have hlast : ∀ p ∈ w.getLast?, p ≠ '_' ∧ Breaks p back := fun p hp =>
    ⟨fun heq => h.not_mem (heq ▸ List.mem_of_mem_getLast? hp), hback p hp⟩
  rw [Naming.wordsFrom_append h.ne_nil hlast, h.wordsFrom_eq]
  rfl

/-- **Words that are joined by underscores are cut there.** -/
theorem wordsFrom_intercalate (h : ∀ w ∈ ws, Uncut w) :
    wordsFrom [] (List.intercalate ['_'] ws) = ws := by
  induction ws with
  | nil => simp [wordsFrom]
  | cons w ws ih =>
    obtain ⟨hw, hws⟩ := List.forall_mem_cons.1 h
    cases ws with
    | nil => simpa using hw.wordsFrom_eq
    | cons w' ws =>
      have hbehind : wordsFrom [] ('_' :: List.intercalate ['_'] (w' :: ws)) = w' :: ws := by
        rw [wordsFrom, if_pos rfl, ih hws]
      rw [List.intercalate_cons_cons, List.append_assoc, List.singleton_append,
        hw.wordsFrom_append fun p _ => breaks_underscore p _, hbehind]

/-! ## Snake case -/

theorem all_isAscii_of_mem_wordsFrom (h : cs.all isAscii = true) (hw : w ∈ wordsFrom [] cs) :
    w.all isAscii = true :=
  List.all_eq_true.2 fun _ hc => List.all_eq_true.1 h _ (of_mem_wordsFrom hw hc).1

theorem lowerWords_of_isAscii (h : cs.all isAscii = true) :
    lowerWords cs = (wordsFrom [] cs).map (List.map Char.toLower) :=
  List.map_congr_left fun _ hw => lowercase_of_isAscii (all_isAscii_of_mem_wordsFrom h hw)

/-- **A name in snake case has the words of the name in lower case.** -/
theorem wordsFrom_snake (h : cs.all isAscii = true) : wordsFrom [] (snake cs) = lowerWords cs := by
  refine wordsFrom_intercalate fun w hw => ?_
  have hplain := not_mem_of_mem_lowerWords hw
  obtain ⟨word, hword, rfl⟩ := List.mem_map.1 hw
  have hascii := all_isAscii_of_mem_wordsFrom h hword
  refine .of_no_capital ?_ fun d hd => ⟨fun heq => hplain (heq ▸ hd), ?_⟩
  · rw [ne_eq, lowercase_eq_nil_iff]
    exact ne_nil_of_mem_wordsFrom hword
  · rw [lowercase_of_isAscii hascii] at hd
    obtain ⟨c, hc, rfl⟩ := List.mem_map.1 hd
    exact isUppercase_toLower (List.all_eq_true.1 hascii c hc)

/-- The lower case of words is in lower case. -/
theorem map_lowercase_lowerWords (h : cs.all isAscii = true) :
    (lowerWords cs).map Unicode.lowercase = lowerWords cs := by
  rw [lowerWords_of_isAscii h, List.map_map]
  refine List.map_congr_left fun w hw => ?_
  have hascii := all_isAscii_of_mem_wordsFrom h hw
  have hlower : (w.map Char.toLower).all isAscii = true := by
    rw [List.all_map, List.all_eq_true]
    exact fun c hc => isAscii_toLower (List.all_eq_true.1 hascii c hc)
  rw [Function.comp_apply, lowercase_of_isAscii hlower, List.map_map]
  exact List.map_congr_left fun c hc => toLower_toLower (List.all_eq_true.1 hascii c hc)

/-- **A name in snake case is in snake case already.** -/
theorem snake_snake (h : cs.all isAscii = true) : snake (snake cs) = snake cs := by
  rw [snake, wordsFrom_snake h, map_lowercase_lowerWords h]
  rfl

/-! ## Camel case -/

/-- The characters of a text with its first one in upper case. -/
def capital : List Char → List Char
  | [] => []
  | c :: rest => toUpper c ++ rest

/-- The characters of a name in camel case. -/
def camel (cs : List Char) : List Char := (wordsFrom [] cs).flatMap capital

theorem toList_capitalize (text : String) : (capitalize text).toList = capital text.toList := by
  unfold capitalize
  cases text.toList <;> simp [capital]

theorem toList_toUpperCamelCase (name : String) :
    (toUpperCamelCase name).toList = camel name.toList := by
  rw [toUpperCamelCase, String.toList_join, words, List.map_map, List.flatMap_map, camel]
  simp [toList_capitalize]

theorem capital_cons (hc : isAscii c = true) (rest : List Char) :
    capital (c :: rest) = c.toUpper :: rest := by
  rw [capital, toUpper, if_pos hc]
  rfl

/-- Words that begin with no small letter are in camel case when they are run together. -/
theorem flatMap_capital (h : ∀ w ∈ ws, ∀ c ∈ w.head?, isAscii c = true ∧ c.toUpper = c) :
    ws.flatMap capital = ws.flatten := by
  induction ws with
  | nil => rfl
  | cons w ws ih =>
    obtain ⟨hw, hws⟩ := List.forall_mem_cons.1 h
    rw [List.flatMap_cons, List.flatten_cons, ih hws]
    cases w with
    | nil => rfl
    | cons c rest =>
      obtain ⟨hascii, hupper⟩ := hw c rfl
      rw [capital_cons hascii, hupper]

theorem of_mem_capital (h : w.all isAscii = true) (hc : c ∈ capital w) :
    isAscii c = true ∧ (c = '_' → '_' ∈ w) := by
  cases w with
  | nil => cases hc
  | cons d rest =>
    rw [List.all_cons, Bool.and_eq_true] at h
    rw [capital_cons h.1] at hc
    rcases List.mem_cons.1 hc with rfl | hc
    · refine ⟨isAscii_toUpper h.1, fun heq => ?_⟩
      rw [eq_underscore_of_toUpper h.1 heq]
      exact List.mem_cons_self
    · exact ⟨List.all_eq_true.1 h.2 c hc, fun heq => List.mem_cons_of_mem d (heq ▸ hc)⟩

theorem of_mem_camel (h : cs.all isAscii = true) (hc : c ∈ camel cs) :
    isAscii c = true ∧ c ≠ '_' := by
  obtain ⟨w, hw, hc⟩ := List.mem_flatMap.1 hc
  obtain ⟨hascii, hunderscore⟩ := of_mem_capital (all_isAscii_of_mem_wordsFrom h hw) hc
  exact ⟨hascii, fun heq => not_mem_of_mem_wordsFrom hw (hunderscore heq)⟩

/-- A name in camel case begins with no small letter. -/
theorem toUpper_head?_camel (h : cs.all isAscii = true) (hc : c ∈ (camel cs).head?) :
    c.toUpper = c := by
  unfold camel at hc
  cases hwords : wordsFrom [] cs with
  | nil => simp [hwords] at hc
  | cons w ws =>
    have hw : w ∈ wordsFrom [] cs := hwords ▸ List.mem_cons_self
    have hascii := all_isAscii_of_mem_wordsFrom h hw
    cases w with
    | nil => exact absurd rfl (ne_nil_of_mem_wordsFrom hw)
    | cons d rest =>
      rw [List.all_cons, Bool.and_eq_true] at hascii
      rw [hwords, List.flatMap_cons, capital_cons hascii.1] at hc
      obtain rfl : d.toUpper = c := Option.some.inj hc
      exact toUpper_toUpper hascii.1

/-- **A name in camel case is in camel case already.** -/
theorem camel_camel (h : cs.all isAscii = true) : camel (camel cs) = camel cs := by
  have hplain : '_' ∉ camel cs := fun hmem => (of_mem_camel h hmem).2 rfl
  -- words begin as the name does, or with the capital that they were cut at
  have hheads : ∀ w ∈ wordsFrom [] (camel cs), ∀ c ∈ w.head?,
      isAscii c = true ∧ c.toUpper = c := by
    intro w hw c hc
    have hmem := (of_mem_wordsFrom hw (List.mem_of_mem_head? hc)).1
    have hascii := (of_mem_camel h hmem).1
    rcases head?_of_mem_wordsFrom hplain hw hc with hfirst | hupper
    · exact ⟨hascii, toUpper_head?_camel h hfirst⟩
    · exact ⟨hascii, toUpper_of_isUppercase hascii hupper⟩
  rw [camel, flatMap_capital hheads, flatten_wordsFrom_of_not_mem hplain]

/-! ## From snake case to camel case and back -/

/-- Small letters and digits of ASCII. -/
def IsPlain (c : Char) : Prop := c.isLower = true ∨ c.isDigit = true

theorem IsPlain.isAscii (h : IsPlain c) : isAscii c = true := by
  have hlast : ∀ d : Char, c.val ≤ d.val → d.toNat < 128 → c.toNat < 128 := fun d hle hd =>
    Nat.lt_of_le_of_lt (UInt32.le_iff_toNat_le.1 hle) hd
  rw [Unicode.isAscii, decide_eq_true_eq]
  rcases h with h | h
  · exact hlast 'z' (of_decide_eq_true (Bool.and_eq_true_iff.1 h).2) (by decide)
  · exact hlast '9' (of_decide_eq_true (Bool.and_eq_true_iff.1 h).2) (by decide)

theorem IsPlain.spec (h : IsPlain c) :
    c ≠ '_' ∧ isUppercase c = false ∧ c.toLower = c ∧
      (isLowercase c = true ∨ c.isDigit = true) :=
  of_isAscii (p := fun c => c.isLower = true ∨ c.isDigit = true →
    c ≠ '_' ∧ isUppercase c = false ∧ c.toLower = c ∧ (isLowercase c = true ∨ c.isDigit = true))
    (by decide) h.isAscii h

theorem toUpper_of_isLower (h : c.isLower = true) :
    isUppercase c.toUpper = true ∧ c.toUpper.toLower = c :=
  of_isAscii (p := fun c => c.isLower = true → isUppercase c.toUpper = true ∧
    c.toUpper.toLower = c) (by decide) (IsPlain.isAscii (.inl h)) h

theorem startsWord_of_isPlain {previous : Char} (hprevious : IsPlain previous)
    (hc : isUppercase c = true) (next : Option Char) : startsWord previous c next = true := by
  rcases hprevious.spec.2.2.2 with h | h <;> simp [startsWord, hc, h]

/-- A word of small letters and digits that begins with two letters. -/
def IsPlainWord (w : List Char) : Prop :=
  ∃ first second rest, w = first :: second :: rest ∧ first.isLower = true ∧
    second.isLower = true ∧ ∀ c ∈ rest, IsPlain c

/-- A plain word with its first letter in upper case. -/
def IsCapitalized (w : List Char) : Prop :=
  ∃ c rest, w = c :: rest ∧ isUppercase c = true ∧ rest ≠ [] ∧ ∀ d ∈ rest, IsPlain d

theorem IsPlainWord.isPlain (h : IsPlainWord w) (hc : c ∈ w) : IsPlain c := by
  obtain ⟨first, second, rest, rfl, hfirst, hsecond, hrest⟩ := h
  rcases List.mem_cons.1 hc with rfl | hc
  · exact .inl hfirst
  · rcases List.mem_cons.1 hc with rfl | hc
    · exact .inl hsecond
    · exact hrest c hc

theorem IsPlainWord.uncut (h : IsPlainWord w) : Uncut w := by
  refine .of_no_capital ?_ fun d hd => ⟨(h.isPlain hd).spec.1, (h.isPlain hd).spec.2.1⟩
  obtain ⟨first, second, rest, rfl, -⟩ := h
  exact List.cons_ne_nil _ _

theorem IsPlainWord.isCapitalized (h : IsPlainWord w) : IsCapitalized (capital w) := by
  have hplain := fun c => h.isPlain (c := c)
  obtain ⟨first, second, rest, rfl, hfirst, -⟩ := h
  refine ⟨first.toUpper, second :: rest, capital_cons (IsPlain.isAscii (.inl hfirst)) _,
    (toUpper_of_isLower hfirst).1, List.cons_ne_nil _ _, fun d hd => ?_⟩
  exact hplain d (List.mem_cons_of_mem first hd)

theorem IsPlainWord.lowercase_capital (h : IsPlainWord w) :
    Unicode.lowercase (capital w) = w := by
  have hplain := fun c => h.isPlain (c := c)
  have hascii : w.all isAscii = true := List.all_eq_true.2 fun c hc => (hplain c hc).isAscii
  rw [lowercase_of_isAscii (List.all_eq_true.2 fun c hc => (of_mem_capital hascii hc).1)]
  obtain ⟨first, second, rest, rfl, hfirst, -⟩ := h
  have hrest : (second :: rest).map Char.toLower = (second :: rest).map id :=
    List.map_congr_left fun d hd => (hplain d (List.mem_cons_of_mem first hd)).spec.2.2.1
  rw [capital_cons (IsPlain.isAscii (.inl hfirst)), List.map_cons, hrest, List.map_id,
    (toUpper_of_isLower hfirst).2]

theorem IsCapitalized.uncut (h : IsCapitalized w) : Uncut w := by
  obtain ⟨c, rest, rfl, hc, -, hrest⟩ := h
  refine ⟨c, rest, rfl, ?_, fun d hd => ⟨(hrest d hd).spec.1, (hrest d hd).spec.2.1⟩⟩
  rintro rfl
  exact absurd hc (by decide)

/-- **Capitalized words that are run together are cut again.** -/
theorem wordsFrom_flatten (h : ∀ w ∈ ws, IsCapitalized w) : wordsFrom [] ws.flatten = ws := by
  induction ws with
  | nil => simp [wordsFrom]
  | cons w ws ih =>
    obtain ⟨hw, hws⟩ := List.forall_mem_cons.1 h
    rw [List.flatten_cons, hw.uncut.wordsFrom_append, ih hws]
    intro p hp
    -- each word ends in a small letter or a digit, and the next one begins with a capital
    have hlast : IsPlain p := by
      obtain ⟨c, rest, rfl, -, hrest, hplain⟩ := hw
      obtain ⟨d, rest, rfl⟩ := List.exists_cons_of_ne_nil hrest
      rw [List.getLast?_cons_cons] at hp
      exact hplain p (List.mem_of_mem_getLast? hp)
    cases ws with
    | nil => exact trivial
    | cons w' ws =>
      obtain ⟨c, rest, rfl, hc, -⟩ := hws w' List.mem_cons_self
      exact .inr (startsWord_of_isPlain hlast hc _)

/-- **Snake case undoes camel case** on plain words with underscores between them. -/
theorem snake_camel (h : ∀ w ∈ ws, IsPlainWord w) :
    snake (camel (List.intercalate ['_'] ws)) = List.intercalate ['_'] ws := by
  have hcapitalized : ∀ w ∈ ws.map capital, IsCapitalized w := by
    intro w hw
    obtain ⟨word, hword, rfl⟩ := List.mem_map.1 hw
    exact (h word hword).isCapitalized
  have hwords : wordsFrom [] (camel (List.intercalate ['_'] ws)) = ws.map capital := by
    rw [camel, wordsFrom_intercalate fun w hw => (h w hw).uncut, List.flatMap_def,
      wordsFrom_flatten hcapitalized]
  have hlower : (ws.map capital).map Unicode.lowercase = ws := by
    rw [List.map_map]
    exact (List.map_congr_left fun w hw => (h w hw).lowercase_capital).trans (List.map_id ws)
  rw [snake, hwords, hlower]

/-! ## Names -/

/-- Plain words, with a single underscore between each and the next. -/
def IsSnakeCase (name : String) : Prop :=
  ∃ ws : List String, (∀ w ∈ ws, IsPlainWord w.toList) ∧ name = "_".intercalate ws

theorem words_toSnakeCase {name : String} (h : name.toList.all isAscii = true) :
    words (toSnakeCase name) = (words name).map lowercase := by
  rw [words, toList_toSnakeCase, wordsFrom_snake h, lowerWords, words, List.map_map, List.map_map]
  exact List.map_congr_left fun w _ => by simp [lowercase]

theorem IsSnakeCase.toSnakeCase_toUpperCamelCase {name : String} (h : IsSnakeCase name) :
    toSnakeCase (toUpperCamelCase name) = name := by
  obtain ⟨ws, hws, rfl⟩ := h
  have hplain : ∀ w ∈ ws.map String.toList, IsPlainWord w := List.forall_mem_map.2 hws
  rw [← String.toList_inj, toList_toSnakeCase, toList_toUpperCamelCase, String.toList_intercalate]
  exact snake_camel hplain

/-- **The laws of the case conversions on ASCII names.** A name in snake case has the words of the
name in lower case, and is the same for names with the same ones; both conversions do nothing the
second time; and snake case undoes camel case on plain words with underscores between them. -/
theorem conversion_laws (a b : String) (ha : a.toList.all isAscii = true) :
    words (toSnakeCase a) = (words a).map lowercase ∧
    toSnakeCase (toSnakeCase a) = toSnakeCase a ∧
    (toSnakeCase a = toSnakeCase b ↔ (words a).map lowercase = (words b).map lowercase) ∧
    toUpperCamelCase (toUpperCamelCase a) = toUpperCamelCase a ∧
    (IsSnakeCase a → toSnakeCase (toUpperCamelCase a) = a) := by
  refine ⟨words_toSnakeCase ha, ?_, toSnakeCase_eq_iff, ?_, fun h => h.toSnakeCase_toUpperCamelCase⟩
  · rw [← String.toList_inj, toList_toSnakeCase, toList_toSnakeCase, snake_snake ha]
  · rw [← String.toList_inj, toList_toUpperCamelCase, toList_toUpperCamelCase, camel_camel ha]

/-- A name with a digit at the end of a word, and one with the same words in lower case. -/
theorem conversion_laws_http :
    words (toSnakeCase "http2_server") = ["http2", "server"] ∧
      toSnakeCase "http2_server" = toSnakeCase "HTTP2Server" ∧
      toSnakeCase (toUpperCamelCase "http2_server") = "http2_server" := by
  obtain ⟨hwords, -, hsame, -, hback⟩ := conversion_laws "http2_server" "HTTP2Server" (by decide)
  have hsnake : IsSnakeCase "http2_server" := by
    refine ⟨["http2", "server"], ?_, by decide⟩
    refine List.forall_mem_cons.2 ⟨⟨'h', 't', ['t', 'p', '2'], ?_⟩, List.forall_mem_singleton.2
      ⟨'s', 'e', ['r', 'v', 'e', 'r'], ?_⟩⟩ <;> simp [IsPlain]
  exact ⟨hwords.trans (by decide), hsame.2 (by decide), hback hsnake⟩

end Naming

end DeclSynth
