import DeclSynth.Proofs.Naming.Words

/-!
# Where a name is cut

The words of a name are also what a reading from the left comes to that looks the
neighbours of a capital up by their positions (`readTo`). Each step keeps what has
been read (`Reached.step`), so no look-up fails or meets an underscore, and the word
that a character is in (`wordOf`) is another one than that of the character before it
exactly where there is a boundary between them (`words_cut`).
-/

namespace DeclSynth.Naming

open Unicode

/-! ## Pieces of a concatenation -/

section Pieces

variable {α : Type} {before after pieces : List (List α)} {piece : List α} {k : Nat} {x : α}

/-- The number of the piece that an element of a concatenation is in. -/
def pieceOf : List (List α) → Nat → Nat
  | [], _ => 0
  | piece :: pieces, k =>
    if k < piece.length then 0 else pieceOf pieces (k - piece.length) + 1

/-- **An element is in one of the first pieces exactly where it is among their elements.** -/
theorem pieceOf_append_lt_iff :
    pieceOf (before ++ after) k < before.length ↔ k < before.flatten.length := by
  induction before generalizing k with
  | nil => simp
  | cons piece before ih =>
    rw [List.cons_append, pieceOf, List.flatten_cons, List.length_append, List.length_cons]
    split
    · omega
    · rw [Nat.add_lt_add_iff_right, ih]
      omega

theorem pieceOf_eq (hle : before.flatten.length ≤ k)
    (hlt : k < before.flatten.length + piece.length) :
    pieceOf (before ++ piece :: after) k = before.length := by
  have hbehind : ¬ pieceOf (before ++ piece :: after) k < before.length := by
    rw [pieceOf_append_lt_iff]
    omega
  have hwithin : pieceOf ((before ++ [piece]) ++ after) k < (before ++ [piece]).length := by
    rw [pieceOf_append_lt_iff, List.flatten_append, List.length_append, List.flatten_singleton]
    exact hlt
  rw [List.append_assoc, List.singleton_append, List.length_append, List.length_singleton]
    at hwithin
  omega

/-- The piece that an element is in has it. -/
theorem exists_pieceOf (h : pieces.flatten[k]? = some x) :
    ∃ piece, pieces[pieceOf pieces k]? = some piece ∧ x ∈ piece := by
  induction pieces generalizing k with
  | nil => cases h
  | cons piece pieces ih =>
    rw [List.flatten_cons] at h
    rw [pieceOf]
    split
    · rename_i hk
      rw [List.getElem?_append_left hk] at h
      exact ⟨piece, rfl, List.mem_of_getElem? h⟩
    · rename_i hk
      rw [List.getElem?_append_right (Nat.not_lt.1 hk)] at h
      exact ih h

end Pieces

/-- The number of the word that the character at a position of a name is in. -/
def wordOf (name : String) (i : Nat) : Nat :=
  pieceOf ((words name).map String.toList) ((name.toList.take i).countP (· ≠ '_'))

/-! ## Reading by positions -/

/-- What a reading has come to: the words that are complete, and the current one, last character
first. -/
structure Reading where
  complete : List (List Char)
  current : List Char
deriving DecidableEq, Repr

/-- The words when the current one, if there is any, ends here. -/
def Reading.close (s : Reading) : List (List Char) :=
  match s.current with
  | [] => s.complete
  | current@(_ :: _) => s.complete ++ [current.reverse]

/-- The character before a position, if there is one. -/
def lookBack (cs : List Char) : Nat → Option Char
  | 0 => none
  | i + 1 => cs[i]?

/-- Reads the character at a position. The one before it is looked up where a capital comes and
there is a current word, and a look-up that finds nothing ends the reading. -/
def Reading.step (cs : List Char) (s : Reading) (i : Nat) : Option Reading :=
  match cs[i]? with
  | none => none
  | some c =>
    if c = '_' then some ⟨s.close, []⟩
    else if isUppercase c && !s.current.isEmpty then
      match lookBack cs i with
      | none => none
      | some previous =>
        if startsWord previous c cs[i + 1]? then some ⟨s.close, [c]⟩
        else some ⟨s.complete, c :: s.current⟩
    else some ⟨s.complete, c :: s.current⟩

/-- What a reading of the characters before a position comes to. -/
def readTo (cs : List Char) : Nat → Option Reading
  | 0 => some ⟨[], []⟩
  | i + 1 => (readTo cs i).bind (·.step cs i)

variable {cs : List Char} {i : Nat} {s : Reading} {c x : Char}

/-- What there is to know of a reading of the characters before a position. -/
structure Reached (cs : List Char) (i : Nat) (s : Reading) : Prop where
  /-- What is left to be read completes the words of the name. -/
  words_eq : wordsFrom [] cs = s.complete ++ wordsFrom s.current (cs.drop i)
  /-- All characters before the position have been read. -/
  length_eq : s.complete.flatten.length + s.current.length = (cs.take i).countP (· ≠ '_')
  /-- The current word ends in the character before the position, unless that is an underscore. -/
  head?_current : s.current.head? = (lookBack cs i).filter (· ≠ '_')

theorem close_eq (s : Reading) : s.close = s.complete ++ wordsFrom s.current [] := by
  unfold Reading.close
  cases hcurrent : s.current <;> simp [wordsFrom]

theorem length_flatten_close (s : Reading) :
    s.close.flatten.length = s.complete.flatten.length + s.current.length := by
  rw [close_eq, List.flatten_append, flatten_wordsFrom, List.length_append]
  simp

/-- The character that is looked up is there, and no underscore. -/
theorem Reached.exists_lookBack (h : Reached cs i s) (hcurrent : s.current ≠ []) :
    ∃ x, lookBack cs i = some x ∧ x ≠ '_' ∧ s.current.head? = some x := by
  obtain ⟨x, earlier, hx⟩ := List.exists_cons_of_ne_nil hcurrent
  have hhead := h.head?_current
  rw [hx, List.head?_cons, eq_comm, Option.filter_eq_some_iff] at hhead
  exact ⟨x, hhead.1, by simpa using hhead.2, by rw [hx]; rfl⟩

/-- A character that has just been read ends the current word, unless it is an underscore. -/
theorem Reached.head?_eq (h : Reached cs (i + 1) s) (hc : cs[i]? = some c) (hne : c ≠ '_') :
    s.current.head? = some c := by
  rw [h.head?_current, lookBack, hc, Option.filter_some_pos (by simpa using hne)]

/-! ## Steps -/

/-- The reading behind one more character, where the current word itself says which character came
before. -/
def Reading.advance (s : Reading) (c : Char) (next : Option Char) : Reading :=
  if c = '_' then ⟨s.close, []⟩
  else if s.current.head?.any (startsWord · c next) then ⟨s.close, [c]⟩
  else ⟨s.complete, c :: s.current⟩

/-- A character that has been read leaves the words as they are to be. -/
theorem words_advance (s : Reading) (c : Char) (rest : List Char) :
    s.complete ++ wordsFrom s.current (c :: rest) =
      (s.advance c rest.head?).complete ++ wordsFrom (s.advance c rest.head?).current rest := by
  unfold Reading.advance Reading.close
  cases hcurrent : s.current with
  | nil => by_cases hc : c = '_' <;> simp [wordsFrom, hc]
  | cons previous earlier =>
    by_cases hc : c = '_'
    · simp [wordsFrom, hc]
    · by_cases hstarts : startsWord previous c rest.head? = true <;> simp [wordsFrom, hc, hstarts]

/-- Only an underscore is dropped. -/
theorem length_advance (s : Reading) (c : Char) (next : Option Char) :
    (s.advance c next).complete.flatten.length + (s.advance c next).current.length =
      s.complete.flatten.length + s.current.length + [c].countP (· ≠ '_') := by
  unfold Reading.advance
  split
  · rename_i hc
    rw [hc, length_flatten_close]
    rfl
  · rename_i hc
    have hone : [c].countP (· ≠ '_') = 1 := by simp [hc]
    rw [hone]
    split
    · rw [length_flatten_close]
      rfl
    · rw [List.length_cons, Nat.add_assoc]

theorem head?_current_advance (s : Reading) (c : Char) (next : Option Char) :
    (s.advance c next).current.head? = (some c).filter (· ≠ '_') := by
  unfold Reading.advance
  split
  · rename_i hc
    rw [hc]
    rfl
  · split <;> simp [Option.filter, *]

/-- A step looks nothing up that the current word does not say. -/
theorem Reached.step_eq (h : Reached cs i s) (hc : cs[i]? = some c) :
    s.step cs i = some (s.advance c cs[i + 1]?) := by
  unfold Reading.step Reading.advance
  simp only [hc]
  by_cases hunderscore : c = '_'
  · simp [hunderscore]
  rw [if_neg hunderscore, if_neg hunderscore]
  by_cases hcurrent : s.current = []
  · simp [hcurrent]
  obtain ⟨x, hx, -, hhead⟩ := h.exists_lookBack hcurrent
  have hempty : s.current.isEmpty = false := by simpa using hcurrent
  cases hupper : isUppercase c with
  | true =>
    rw [if_pos (by rw [hempty]; rfl), hx, hhead, Option.any_some]
    dsimp only
    split <;> rfl
  | false => simp [hhead, startsWord, hupper]

/-- **Each step keeps what has been read.** -/
theorem Reached.step (h : Reached cs i s) (hc : cs[i]? = some c) :
    ∃ s', s.step cs i = some s' ∧ Reached cs (i + 1) s' := by
  refine ⟨_, h.step_eq hc, ?_, ?_, ?_⟩
  · have hdrop : cs.drop i = c :: cs.drop (i + 1) := by
      obtain ⟨hi, rfl⟩ := List.getElem?_eq_some_iff.1 hc
      exact List.drop_eq_getElem_cons hi
    rw [h.words_eq, hdrop, words_advance, List.head?_drop]
  · rw [length_advance, h.length_eq, List.take_add_one, hc, List.countP_append]
    rfl
  · rw [head?_current_advance, lookBack, hc]

/-- **A reading gets to every position of a name.** -/
theorem exists_reached (hi : i ≤ cs.length) : ∃ s, readTo cs i = some s ∧ Reached cs i s := by
  induction i with
  | zero => exact ⟨_, rfl, by simp, by simp, rfl⟩
  | succ i ih =>
    obtain ⟨s, hs, hreached⟩ := ih (Nat.le_of_succ_le hi)
    obtain ⟨s', hs', hreached'⟩ := hreached.step (List.getElem?_eq_getElem hi)
    refine ⟨s', ?_, hreached'⟩
    rw [readTo, hs]
    exact hs'

/-- A reading of a whole name comes to its words. -/
theorem close_readTo (cs : List Char) :
    (readTo cs cs.length).map Reading.close = some (wordsFrom [] cs) := by
  obtain ⟨s, hs, hreached⟩ := exists_reached (Nat.le_refl cs.length)
  rw [hs, hreached.words_eq, List.drop_length, Option.map_some, close_eq]

/-! ## Words by positions -/

/-- The number of the character's word, in terms of the characters. -/
def wordAt (cs : List Char) (i : Nat) : Nat :=
  pieceOf (wordsFrom [] cs) ((cs.take i).countP (· ≠ '_'))

/-- A character that has just been read is in the word behind the complete ones. -/
theorem Reached.wordAt_eq (h : Reached cs (i + 1) s) (hc : cs[i]? = some c) (hne : c ≠ '_') :
    wordAt cs i = s.complete.length := by
  have hcurrent : s.current ≠ [] := by
    rintro hnil
    simpa [hnil] using h.head?_eq hc hne
  obtain ⟨more, rest, hwords, -⟩ := exists_wordsFrom_current hcurrent (cs.drop (i + 1))
  have hlength := h.length_eq
  rw [List.take_add_one, hc, List.countP_append] at hlength
  have hone : (some c).toList.countP (· ≠ '_') = 1 := by simp [hne]
  have hpos := List.length_pos_iff.2 hcurrent
  rw [wordAt, h.words_eq, hwords]
  refine pieceOf_eq (by omega) ?_
  rw [List.length_append, List.length_reverse]
  omega

theorem countP_take_le (cs : List Char) {j k : Nat} (h : j ≤ k) :
    (cs.take j).countP (· ≠ '_') ≤ (cs.take k).countP (· ≠ '_') :=
  (List.take_sublist_take_left h).countP_le

/-- **Characters with an underscore between them are in different words.** -/
theorem wordAt_lt_wordAt {j k : Nat} (hik : i < k) (hkj : k < j) (hc : cs[i]? = some c)
    (hne : c ≠ '_') (hk : cs[k]? = some '_') : wordAt cs i < wordAt cs j := by
  have hlt : k < cs.length := (List.getElem?_eq_some_iff.1 hk).1
  obtain ⟨s, -, hreached⟩ := exists_reached (i := k + 1) (Nat.succ_le_of_lt hlt)
  have hcurrent : s.current = [] := by
    have hhead := hreached.head?_current
    rw [lookBack, hk] at hhead
    simpa [Option.filter] using hhead
  have hread : s.complete.flatten.length = (cs.take (k + 1)).countP (· ≠ '_') := by
    simpa [hcurrent] using hreached.length_eq
  have hbefore : (cs.take i).countP (· ≠ '_') < (cs.take (k + 1)).countP (· ≠ '_') := by
    have hnext : (cs.take (i + 1)).countP (· ≠ '_') = (cs.take i).countP (· ≠ '_') + 1 := by
      rw [List.take_add_one, hc, List.countP_append]
      simp [hne]
    have := countP_take_le cs (show i + 1 ≤ k + 1 by omega)
    omega
  have hbehind := countP_take_le cs (show k + 1 ≤ j from hkj)
  have hfirst : wordAt cs i < s.complete.length := by
    rw [wordAt, hreached.words_eq, pieceOf_append_lt_iff, hread]
    exact hbefore
  have hsecond : ¬ wordAt cs j < s.complete.length := by
    rw [wordAt, hreached.words_eq, pieceOf_append_lt_iff, hread]
    omega
  omega

/-- **Neighbours are in different words exactly where there is a boundary between them.** -/
theorem wordAt_succ (hx : cs[i]? = some x) (hxne : x ≠ '_') (hc : cs[i + 1]? = some c)
    (hne : c ≠ '_') :
    wordAt cs (i + 1) = wordAt cs i + (startsWord x c cs[i + 2]?).toNat := by
  have hlt : i + 1 < cs.length := (List.getElem?_eq_some_iff.1 hc).1
  obtain ⟨s, -, hreached⟩ := exists_reached (Nat.le_of_lt hlt)
  obtain ⟨s', hs', hreached'⟩ := hreached.step hc
  have hhead := hreached.head?_eq hx hxne
  rw [hreached.step_eq hc, Option.some.injEq] at hs'
  rw [hreached'.wordAt_eq hc hne, hreached.wordAt_eq hx hxne, ← hs', Reading.advance, if_neg hne,
    hhead, Option.any_some]
  cases startsWord x c cs[i + 1 + 1]? with
  | false => rfl
  | true =>
    cases hcurrent : s.current with
    | nil => simp [hcurrent] at hhead
    | cons previous earlier => simp [Reading.close, hcurrent]

theorem wordOf_eq (name : String) (i : Nat) : wordOf name i = wordAt name.toList i := by
  rw [wordOf, wordAt, words, List.map_map]
  congr 1
  simp [Function.comp_def]

theorem startsWord_eq_true_iff {next : Option Char} :
    startsWord x c next = true ↔ isUppercase c = true ∧
      (isLowercase x = true ∨ x.isDigit = true ∨
        (isUppercase x = true ∧ ∃ d, next = some d ∧ isLowercase d = true)) := by
  cases next <;> simp [startsWord, or_assoc]

/-- What is no underscore is kept behind what is kept of the characters before it. -/
theorem getElem?_filter_countP (hc : cs[i]? = some c) (hne : c ≠ '_') :
    (cs.filter (· ≠ '_'))[(cs.take i).countP (· ≠ '_')]? = some c := by
  obtain ⟨hi, rfl⟩ := List.getElem?_eq_some_iff.1 hc
  have hsplit : cs.take i ++ cs[i] :: cs.drop (i + 1) = cs := by
    rw [← List.drop_eq_getElem_cons hi, List.take_append_drop]
  have hkept := congrArg (List.filter (· ≠ '_')) hsplit
  rw [List.filter_append, List.filter_cons_of_pos (by simpa using hne), eq_comm] at hkept
  rw [hkept, List.countP_eq_length_filter, List.getElem?_append_right (Nat.le_refl _), Nat.sub_self]
  rfl

/-- The word that has a character's number has the character. -/
theorem exists_wordOf {name : String} (hc : name.toList[i]? = some c) (hne : c ≠ '_') :
    ∃ w, (words name)[wordOf name i]? = some w ∧ c ∈ w.toList := by
  have hflatten := getElem?_filter_countP hc hne
  rw [← List.nil_append (List.filter _ _), ← List.reverse_nil, ← flatten_wordsFrom] at hflatten
  obtain ⟨w, hw, hmem⟩ := exists_pieceOf hflatten
  rw [wordOf_eq]
  refine ⟨String.ofList w, ?_, by simpa using hmem⟩
  rw [words, List.getElem?_map, wordAt, hw]
  rfl

/-- **Words are the characters of a name, cut at its underscores and boundaries.** Nothing else is
dropped, and no word is empty or has an underscore. Characters are in different words if there is an
underscore between them, and neighbours where the second one is a capital that follows a small
letter or a digit, or that ends a run of capitals before a small letter. The words are also what a
reading comes to that looks the character before a capital up by its position: wherever there is a
current word, that character is there, is no underscore, and is the one that the word ends in. -/
theorem words_cut (name : String) :
    String.join (words name) = String.ofList (name.toList.filter (· ≠ '_')) ∧
    (∀ w ∈ words name, w ≠ "" ∧ '_' ∉ w.toList) ∧
    (∀ i c, name.toList[i]? = some c → c ≠ '_' →
      ∃ w, (words name)[wordOf name i]? = some w ∧ c ∈ w.toList) ∧
    (∀ i j k x c, i < k → k < j → name.toList[i]? = some x → x ≠ '_' →
      name.toList[k]? = some '_' → name.toList[j]? = some c → c ≠ '_' →
      wordOf name i ≠ wordOf name j) ∧
    (∀ i x c, name.toList[i]? = some x → x ≠ '_' → name.toList[i + 1]? = some c → c ≠ '_' →
      (wordOf name i ≠ wordOf name (i + 1) ↔ isUppercase c = true ∧
        (isLowercase x = true ∨ x.isDigit = true ∨
          (isUppercase x = true ∧
            ∃ d, name.toList[i + 2]? = some d ∧ isLowercase d = true)))) ∧
    (readTo name.toList name.toList.length).map Reading.close =
      some ((words name).map String.toList) ∧
    (∀ i, i < name.toList.length → ∃ s, readTo name.toList i = some s ∧
      wordsFrom [] name.toList = s.complete ++ wordsFrom s.current (name.toList.drop i) ∧
      (s.current ≠ [] → ∃ x, lookBack name.toList i = some x ∧ x ≠ '_' ∧
        s.current.head? = some x)) := by
  refine ⟨?_, ?_, ?_, ?_, ?_, ?_, ?_⟩
  · have hflatten := flatten_wordsFrom [] name.toList
    rw [List.reverse_nil, List.nil_append] at hflatten
    rw [← String.toList_inj, String.toList_join, String.toList_ofList, ← hflatten, words,
      List.flatMap_map]
    simp [List.flatMap_id']
  · intro w hw
    refine ⟨ne_empty_of_mem_words hw, ?_⟩
    obtain ⟨word, hword, rfl⟩ := List.mem_map.1 hw
    rw [String.toList_ofList]
    exact not_mem_of_mem_wordsFrom hword
  · intro i c hc hne
    exact exists_wordOf hc hne
  · intro i j k x c hik hkj hx hxne hk hc hne
    rw [wordOf_eq, wordOf_eq]
    exact Nat.ne_of_lt (wordAt_lt_wordAt hik hkj hx hxne hk)
  · intro i x c hx hxne hc hne
    rw [wordOf_eq, wordOf_eq, ← startsWord_eq_true_iff, wordAt_succ hx hxne hc hne]
    cases startsWord x c name.toList[i + 2]? <;> simp
  · rw [close_readTo]
    simp [words, Function.comp_def]
  · intro i hi
    obtain ⟨s, hs, hreached⟩ := exists_reached (Nat.le_of_lt hi)
    exact ⟨s, hs, hreached.words_eq, hreached.exists_lookBack⟩

/-- The cuts of a name: one in a run of capitals, none between the first two of the run, and one at
an underscore. The character before the capital in the run is looked up. -/
theorem words_cut_server :
    wordOf "HTTPServer_v2" 3 ≠ wordOf "HTTPServer_v2" 4 ∧
      wordOf "HTTPServer_v2" 0 = wordOf "HTTPServer_v2" 1 ∧
      wordOf "HTTPServer_v2" 9 ≠ wordOf "HTTPServer_v2" 11 ∧
      (∃ w, (words "HTTPServer_v2")[wordOf "HTTPServer_v2" 4]? = some w ∧ 'S' ∈ w.toList) ∧
      ∃ s x, readTo "HTTPServer_v2".toList 4 = some s ∧
        lookBack "HTTPServer_v2".toList 4 = some x ∧ x ≠ '_' := by
  obtain ⟨-, -, hword, hunderscore, hboundary, -, hread⟩ := words_cut "HTTPServer_v2"
  have hcut := hboundary 3 'P' 'S' rfl (by decide) rfl (by decide)
  have hrun := hboundary 0 'H' 'T' rfl (by decide) rfl (by decide)
  refine ⟨hcut.2 ⟨by decide, .inr (.inr ⟨by decide, 'e', rfl, by decide⟩)⟩, ?_, ?_,
    hword 4 'S' rfl (by decide), ?_⟩
  · refine Decidable.not_not.1 (mt hrun.1 ?_)
    rintro ⟨-, hsmall | hdigit | ⟨-, d, hd, hsmall⟩⟩
    · exact absurd hsmall (by decide)
    · exact absurd hdigit (by decide)
    · obtain rfl : 'T' = d := Option.some.inj hd
      exact absurd hsmall (by decide)
  · exact hunderscore 9 11 10 'r' 'v' (by decide) (by decide) rfl (by decide) rfl rfl (by decide)
  · obtain ⟨s, hs, -, hlook⟩ := hread 4 (by decide)
    have hread : readTo "HTTPServer_v2".toList 4 = some ⟨[], ['P', 'T', 'T', 'H']⟩ := by decide
    rw [hread, Option.some.injEq] at hs
    obtain ⟨x, hx, hne, -⟩ := hlook (by rw [← hs]; exact List.cons_ne_nil _ _)
    exact ⟨_, x, hread, hx, hne⟩

end DeclSynth.Naming
