import DeclSynth.Proofs.Naming.Words
import DeclSynth.Proofs.Unicode.Case

/-!
# Words of a name in parts

Whether a word starts at a character depends on the characters around it, so words
may change when a name is cut off. They do not where the cut is between words: a name
has the words of its parts (`wordsFrom_append`), and the first words of a name, run
together, have exactly these words again (`wordsFrom_flatten_take`). Both rest on no
capital being a small letter as well.
-/

namespace DeclSynth.Naming

open Unicode

variable {current front back cs w : List Char} {previous p c : Char}

/-! ## What comes next -/

/-- Whether a text does not begin with a small letter, so that the word before it ends like one that
nothing follows. -/
def Unfollowed (back : List Char) : Prop := ∀ d ∈ back.head?, isLowercase d = false

theorem Unfollowed.startsWord_eq (h : Unfollowed back) :
    startsWord previous c back.head? = startsWord previous c none := by
  cases back with
  | nil => rfl
  | cons d back => simp [startsWord, h d rfl]

theorem Unfollowed.startsWord_append (h : Unfollowed back) (front : List Char) :
    startsWord previous c (front ++ back).head? = startsWord previous c front.head? := by
  cases front with
  | nil => exact h.startsWord_eq
  | cons d front => rfl

theorem isUppercase_of_startsWord {next : Option Char} (h : startsWord previous c next = true) :
    isUppercase c = true := by
  rw [startsWord, Bool.and_eq_true] at h
  exact h.1

/-- Whether a text ends the word before it, after a given character. -/
def Breaks (previous : Char) : List Char → Prop
  | [] => True
  | c :: rest => c = '_' ∨ startsWord previous c rest.head? = true

theorem breaks_underscore (p : Char) (rest : List Char) : Breaks p ('_' :: rest) := .inl rfl

theorem Breaks.unfollowed (h : Breaks previous back) : Unfollowed back := by
  cases back with
  | nil => exact fun d hd => by cases hd
  | cons c rest =>
    rintro d hd
    obtain rfl : c = d := Option.some.inj hd
    rcases h with rfl | hstarts
    · decide
    · exact not_isLowercase_of_isUppercase (isUppercase_of_startsWord hstarts)

theorem wordsFrom_cons_of_breaks (earlier : List Char) (h : Breaks p back) :
    wordsFrom (p :: earlier) back = (p :: earlier).reverse :: wordsFrom [] back := by
  cases back with
  | nil => rfl
  | cons c rest =>
    by_cases hc : c = '_'
    · simp [wordsFrom, hc]
    · have hstarts := h.resolve_left hc
      simp [wordsFrom, hc, hstarts]

theorem wordsFrom_concat_append (hp : p ≠ '_') (h : Breaks p back) (current front : List Char) :
    wordsFrom current (front ++ p :: back) =
      wordsFrom current (front ++ [p]) ++ wordsFrom [] back := by
  induction front generalizing current with
  | nil =>
    cases current with
    | nil => simp [wordsFrom, hp, wordsFrom_cons_of_breaks _ h]
    | cons previous earlier =>
      simp only [List.nil_append, wordsFrom, if_neg hp, h.unfollowed.startsWord_eq,
        List.head?_nil, wordsFrom_cons_of_breaks _ h]
      by_cases hstarts : startsWord previous p none = true <;> simp [hstarts]
  | cons d front ih =>
    have hhead : (front ++ p :: back).head? = (front ++ [p]).head? := by
      cases front <;> rfl
    cases current with
    | nil =>
      rw [List.cons_append, List.cons_append, wordsFrom, wordsFrom]
      split
      · exact ih _
      · exact ih _
    | cons previous earlier =>
      rw [List.cons_append, List.cons_append, wordsFrom, wordsFrom, hhead]
      split
      · rw [ih, List.cons_append]
      · split
        · rw [ih, List.cons_append]
        · exact ih _

/-- **A name has the words of its parts**, if the second part ends the last word of the first. -/
theorem wordsFrom_append (hfront : front ≠ [])
    (h : ∀ p ∈ front.getLast?, p ≠ '_' ∧ Breaks p back) (current : List Char) :
    wordsFrom current (front ++ back) = wordsFrom current front ++ wordsFrom [] back := by
  obtain rfl | ⟨init, p, rfl⟩ := List.eq_nil_or_concat front
  · exact absurd rfl hfront
  · obtain ⟨hp, hbreaks⟩ := h p (by simp)
    rw [List.concat_eq_append, List.append_assoc]
    exact wordsFrom_concat_append hp hbreaks current init

/-- **The first words are the words of a front of the name**, and no small letter follows that. -/
theorem exists_wordsFrom_take (h : '_' ∉ cs) (current : List Char) (n : Nat) :
    ∃ front back, cs = front ++ back ∧ Unfollowed back ∧
      wordsFrom current front = (wordsFrom current cs).take (n + 1) := by
  -- along the cutting; the front ends where the words that are taken do
  fun_induction wordsFrom current cs generalizing n with
  | case1 => exact ⟨[], [], rfl, by simp [Unfollowed], by simp [wordsFrom]⟩
  | case2 previous earlier => exact ⟨[], [], rfl, by simp [Unfollowed], by simp [wordsFrom]⟩
  | case3 rest ih => exact absurd List.mem_cons_self h
  | case4 c rest hc ih =>
    obtain ⟨front, back, rfl, hback, hwords⟩ := ih (fun hmem => h (List.mem_cons_of_mem c hmem)) n
    exact ⟨c :: front, back, rfl, hback, by rw [← hwords, wordsFrom, if_neg hc]⟩
  | case5 previous earlier rest ih => exact absurd List.mem_cons_self h
  | case6 previous earlier c rest hc hstarts ih =>
    have hsmall := not_isLowercase_of_isUppercase (isUppercase_of_startsWord hstarts)
    cases n with
    | zero => exact ⟨[], c :: rest, rfl, by simpa [Unfollowed] using hsmall, by simp [wordsFrom]⟩
    | succ n =>
      obtain ⟨front, back, rfl, hback, hwords⟩ := ih (fun hmem => h (List.mem_cons_of_mem c hmem)) n
      rw [hback.startsWord_append] at hstarts
      refine ⟨c :: front, back, rfl, hback, ?_⟩
      rw [List.take_succ_cons, ← hwords, wordsFrom, if_neg hc, if_pos hstarts]
  | case7 previous earlier c rest hc hstarts ih =>
    obtain ⟨front, back, rfl, hback, hwords⟩ := ih (fun hmem => h (List.mem_cons_of_mem c hmem)) n
    rw [hback.startsWord_append] at hstarts
    refine ⟨c :: front, back, rfl, hback, ?_⟩
    rw [← hwords, wordsFrom, if_neg hc, if_neg hstarts]

theorem flatten_wordsFrom_of_not_mem (h : '_' ∉ cs) : (wordsFrom [] cs).flatten = cs := by
  rw [flatten_wordsFrom, List.reverse_nil, List.nil_append, List.filter_eq_self]
  intro c hc
  exact decide_eq_true fun heq => h (heq ▸ hc)

/-- **The first words of a name without underscores, run together, are cut into these words
again.** -/
theorem wordsFrom_flatten_take (h : '_' ∉ cs) (n : Nat) :
    wordsFrom [] ((wordsFrom [] cs).take n).flatten = (wordsFrom [] cs).take n := by
  cases n with
  | zero => simp [wordsFrom]
  | succ n =>
    obtain ⟨front, back, hcs, -, hwords⟩ := exists_wordsFrom_take h [] n
    have hfront : '_' ∉ front := fun hmem => h (hcs ▸ List.mem_append_left back hmem)
    rw [← hwords, flatten_wordsFrom_of_not_mem hfront]

/-! ## Capitals -/

/-- A text without capitals and underscores goes on with the current word. -/
theorem wordsFrom_of_no_capital (hcurrent : current ≠ [])
    (h : ∀ c ∈ cs, c ≠ '_' ∧ isUppercase c = false) :
    wordsFrom current cs = [current.reverse ++ cs] := by
  fun_induction wordsFrom current cs with
  | case1 => exact absurd rfl hcurrent
  | case2 previous earlier => rw [List.append_nil]
  | case3 => exact absurd rfl hcurrent
  | case4 => exact absurd rfl hcurrent
  | case5 previous earlier rest ih => exact absurd rfl (h '_' List.mem_cons_self).1
  | case6 previous earlier c rest hc hstarts ih =>
    have hsmall := (h c List.mem_cons_self).2
    rw [isUppercase_of_startsWord hstarts] at hsmall
    cases hsmall
  | case7 previous earlier c rest hc hstarts ih =>
    rw [ih (List.cons_ne_nil _ _) fun d hd => h d (List.mem_cons_of_mem c hd)]
    simp

/-- In a name without underscores, **every word but the first begins with a capital**. -/
theorem exists_capital_of_mem_tail (h : '_' ∉ cs) (hcurrent : current ≠ [])
    (hw : w ∈ (wordsFrom current cs).tail) :
    ∃ c rest, w = c :: rest ∧ isUppercase c = true := by
  fun_induction wordsFrom current cs with
  | case1 => exact absurd rfl hcurrent
  | case2 previous earlier => cases hw
  | case3 => exact absurd rfl hcurrent
  | case4 => exact absurd rfl hcurrent
  | case5 previous earlier rest ih => exact absurd List.mem_cons_self h
  | case6 previous earlier c rest hc hstarts ih =>
    obtain ⟨more, words, hwords, -⟩ := exists_wordsFrom_current (List.cons_ne_nil c []) rest
    rw [List.tail_cons, hwords] at hw
    rcases List.mem_cons.1 hw with rfl | hw
    · exact ⟨c, more, rfl, isUppercase_of_startsWord hstarts⟩
    · exact ih (fun hmem => h (List.mem_cons_of_mem c hmem)) (List.cons_ne_nil _ _)
        (by rw [hwords]; exact hw)
  | case7 previous earlier c rest hc hstarts ih =>
    exact ih (fun hmem => h (List.mem_cons_of_mem c hmem)) (List.cons_ne_nil _ _) hw

/-- In a name without underscores, a word begins as the name does, or with a capital. -/
theorem head?_of_mem_wordsFrom (h : '_' ∉ cs) (hw : w ∈ wordsFrom [] cs) (hc : c ∈ w.head?) :
    c ∈ cs.head? ∨ isUppercase c = true := by
  cases cs with
  | nil => simp [wordsFrom] at hw
  | cons d rest =>
    rw [List.mem_cons, not_or] at h
    have hd : d ≠ '_' := fun heq => h.1 heq.symm
    obtain ⟨more, words, hwords, -⟩ := exists_wordsFrom_current (List.cons_ne_nil d []) rest
    rw [wordsFrom, if_neg hd, hwords] at hw
    rcases List.mem_cons.1 hw with rfl | htail
    · exact .inl hc
    · obtain ⟨e, back, rfl, hupper⟩ := exists_capital_of_mem_tail h.2 (List.cons_ne_nil d [])
        (by rw [hwords]; exact htail)
      obtain rfl : e = c := Option.some.inj hc
      exact .inr hupper

end DeclSynth.Naming
