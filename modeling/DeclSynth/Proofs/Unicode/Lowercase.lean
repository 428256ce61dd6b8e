import DeclSynth.Proofs.Unicode.Table
import DeclSynth.Unicode.Identifier

/-!
# Lower case and identifiers

An identifier character that has a lower case may start an identifier, and its
lower case is a word (`toLower_of_isIdentifierContinue`). This is read off the
tables, which are computed with once (`exists_agree`). So the lower case of
identifier characters is made of identifier characters, and is a word exactly
where they are one (`isWord_lowercaseAfter`).
-/

namespace DeclSynth.Unicode

variable {c : Char} {cs : List Char} {n : Nat} {r e : CodeRange}

/-! ## Ranges -/

/-- The ranges that the characters of a table list. -/
def rangesOf (cs : List Char) : List CodeRange :=
  ((splitWhere (fun c => c == ' ' || c == '\n') cs).filter (· ≠ [])).map .ofChars

/-- The entries that the characters of a table list. -/
def entriesOf (cs : List Char) : List MapEntry :=
  ((splitWhere (fun c => c == ' ' || c == '\n') cs).filter (· ≠ [])).map .ofChars

/-- Whether ranges are none of them empty, increase, and do not meet. -/
def increases : List CodeRange → Bool
  | [] => true
  | [r] => r.lo ≤ r.hi
  | a :: b :: rest => a.lo ≤ a.hi && a.hi < b.lo && increases (b :: rest)

theorem increasing_of_increases {rs : List CodeRange} (h : increases rs = true) :
    Increasing rs := by
  induction rs with
  | nil => exact ⟨by simp, .nil⟩
  | cons a rest ih =>
    cases rest with
    | nil => exact ⟨by simpa [increases] using h, List.pairwise_singleton _ _⟩
    | cons b rest =>
      simp only [increases, Bool.and_eq_true, decide_eq_true_eq] at h
      obtain ⟨⟨ha, hab⟩, hrest⟩ := h
      obtain ⟨hnonempty, hapart⟩ := ih hrest
      refine ⟨List.forall_mem_cons.2 ⟨ha, hnonempty⟩, List.pairwise_cons.2 ⟨fun x hx => ?_, hapart⟩⟩
      rcases List.mem_cons.1 hx with rfl | hx
      · exact hab
      -- what comes later starts behind the end of `b`
      · have hb := hnonempty b List.mem_cons_self
        have hbx := (List.pairwise_cons.1 hapart).1 x hx
        omega

/-- Whether a range lists all that another one lists. -/
def CodeRange.covers (r e : CodeRange) : Bool :=
  r.lo ≤ e.lo && e.hi ≤ r.hi && (e.lo - r.lo) % r.step == 0 &&
    (e.lo == e.hi || e.step % r.step == 0)

theorem CodeRange.contains_of_covers (h : r.covers e = true) (hn : e.contains n = true) :
    r.contains n = true := by
  simp only [covers, contains, Bool.and_eq_true, Bool.or_eq_true, decide_eq_true_eq,
    beq_iff_eq] at h hn ⊢
  obtain ⟨⟨⟨hlo, hhi⟩, hstart⟩, hstep⟩ := h
  obtain ⟨⟨hle, hge⟩, hpoint⟩ := hn
  refine ⟨⟨by omega, by omega⟩, ?_⟩
  have hsum : n - r.lo = (e.lo - r.lo) + (n - e.lo) := by omega
  rw [hsum, ← Nat.dvd_iff_mod_eq_zero]
  refine Nat.dvd_add (Nat.dvd_of_mod_eq_zero hstart) ?_
  rcases hstep with hsingle | hstep
  · have : n - e.lo = 0 := by omega
    rw [this]
    exact Nat.dvd_zero _
  · exact Nat.dvd_trans (Nat.dvd_of_mod_eq_zero hstep) (Nat.dvd_of_mod_eq_zero hpoint)

/-- Whether two ranges lie apart. -/
def CodeRange.isApart (r e : CodeRange) : Bool := r.hi < e.lo || e.hi < r.lo

theorem CodeRange.not_contains_of_isApart (h : r.isApart e = true) (hn : e.contains n = true) :
    r.contains n = false := by
  simp only [isApart, contains, Bool.and_eq_true, Bool.or_eq_true, decide_eq_true_eq] at h hn
  simp only [contains, Bool.and_eq_false_iff, decide_eq_false_iff_not]
  omega

/-- Whether one of the increasing ranges lists all that another one lists. -/
def covered (rs : List CodeRange) (e : CodeRange) : Bool :=
  (rs.dropWhile fun r => r.hi.blt e.lo).head?.any (·.covers e)

theorem exists_of_covered {rs : List CodeRange} (h : covered rs e = true)
    (hn : e.contains n = true) : ∃ r ∈ rs, r.contains n = true := by
  obtain ⟨r, hr, hcovers⟩ := (Option.any_eq_true _ _).1 h
  have hmem : r ∈ rs := (List.dropWhile_sublist _).subset (List.mem_of_mem_head? hr)
  exact ⟨r, hmem, CodeRange.contains_of_covers hcovers hn⟩

/-! ## The tables -/

/-- Whether a range lists characters beyond ASCII. -/
def CodeRange.isBeyondAscii (e : CodeRange) : Bool :=
  128 ≤ e.lo && (e.hi < 0xD800 || (0xDFFF < e.lo && e.hi < 0x110000))

/-- Whether all characters of a range may start an identifier. -/
def letters (starts : List CodeRange) (e : CodeRange) : Bool :=
  if e.hi < 128 then e.lo == e.hi && isIdentifierStart (Char.ofNat e.lo)
  else e.isBeyondAscii && covered starts e

/-- Whether an entry concerns no identifier character, or sends letters to letters. -/
def keepsLetters (starts continues : List CodeRange) (e : MapEntry) : Bool :=
  (letters starts e.range && match e.image with
      | [] => false
      | [target] =>
        letters starts ⟨target, target + (e.range.hi - e.range.lo), e.range.step⟩
      | target :: more => letters starts ⟨target, target, 1⟩ &&
          more.all fun m => (CodeRange.mk m m 1).isBeyondAscii && covered continues ⟨m, m, 1⟩) ||
    (starts.all (·.isApart e.range) && continues.all (·.isApart e.range))

/-- The capital sigma and its two lower cases. -/
def sigmas : List Char := ['Σ', 'σ', 'ς']

/-- What the tables of identifiers and of lower case are to agree on. -/
def agree (starts continues : List CodeRange) (entries : List MapEntry) : Bool :=
  increases starts && increases continues && entries.all (keepsLetters starts continues) &&
    sigmas.all fun c => letters starts ⟨c.toNat, c.toNat, 1⟩

set_option maxRecDepth 100000 in
/-- The texts of the tables agree. They are turned into characters first, as they are too long to
compute with as texts. -/
theorem exists_agree : ∃ starts continues lowers,
    identifierStartText = String.ofList starts ∧
    identifierContinueText = String.ofList continues ∧ toLowerText = String.ofList lowers ∧
    agree (rangesOf starts) (rangesOf continues) (entriesOf lowers) = true :=
  ⟨_, _, _, rfl, rfl, rfl, by decide +kernel⟩

theorem ranges_ofText (text : String) :
    (RangeSet.ofText text).ranges.toList = rangesOf text.toList := by
  simp [RangeSet.ofText, fields, rangesOf]

theorem entries_ofText (text : String) :
    (RangeMap.ofText text).entries.toList = entriesOf text.toList := by
  simp [RangeMap.ofText, fields, entriesOf]

/-- **The tables agree**: the sets and the mapping that are read from the texts do. -/
theorem sets_agree :
    agree identifierStartSet.ranges.toList identifierContinueSet.ranges.toList
      toLowerMap.entries.toList = true := by
  obtain ⟨starts, continues, lowers, hstarts, hcontinues, hlowers, h⟩ := exists_agree
  rw [identifierStartSet, identifierContinueSet, toLowerMap, ranges_ofText, ranges_ofText,
    entries_ofText, hstarts, hcontinues, hlowers]
  simpa only [String.toList_ofList] using h

theorem increasing_starts : Increasing identifierStartSet.ranges.toList := by
  have h := sets_agree
  simp only [agree, Bool.and_eq_true] at h
  exact increasing_of_increases h.1.1.1

theorem increasing_continues : Increasing identifierContinueSet.ranges.toList := by
  have h := sets_agree
  simp only [agree, Bool.and_eq_true] at h
  exact increasing_of_increases h.1.1.2

/-! ## Characters -/

/-- What holds of the first characters holds of an ASCII character. -/
theorem of_isAscii {p : Char → Prop} (h : ∀ n < 128, p (Char.ofNat n)) (hc : isAscii c = true) :
    p c := by
  have hcode := h c.toNat (by simpa [isAscii] using hc)
  rwa [Char.ofNat_toNat] at hcode

theorem toNat_ofNat_of_isBeyondAscii (h : e.isBeyondAscii = true) (hn : e.contains n = true) :
    (Char.ofNat n).toNat = n ∧ 128 ≤ n := by
  simp only [CodeRange.isBeyondAscii, CodeRange.contains, Bool.and_eq_true, Bool.or_eq_true,
    decide_eq_true_eq] at h hn
  have hvalid : n.isValidChar := by
    unfold Nat.isValidChar
    omega
  refine ⟨?_, by omega⟩
  rw [Char.ofNat, dif_pos hvalid]
  rfl

/-- The characters of a range of letters may start an identifier. -/
theorem isIdentifierStart_of_letters (h : letters identifierStartSet.ranges.toList e = true)
    (hn : e.contains n = true) : isIdentifierStart (Char.ofNat n) = true := by
  unfold letters at h
  split at h
  · simp only [CodeRange.contains, Bool.and_eq_true, beq_iff_eq, decide_eq_true_eq] at h hn
    have : n = e.lo := by omega
    rw [this]
    exact h.2
  · rw [Bool.and_eq_true] at h
    obtain ⟨hnat, hbeyond⟩ := toNat_ofNat_of_isBeyondAscii h.1 hn
    have hset := (RangeSet.contains_iff increasing_starts).2 (exists_of_covered h.2 hn)
    simp [isIdentifierStart, isAscii, hnat, Nat.not_lt.2 hbeyond, hset]

theorem isIdentifierStart_of_mem_sigmas (h : c ∈ sigmas) : isIdentifierStart c = true := by
  have hagree := sets_agree
  simp only [agree, Bool.and_eq_true] at hagree
  simpa using isIdentifierStart_of_letters (n := c.toNat) (List.all_eq_true.1 hagree.2 c h)
    (by simp [CodeRange.contains])

theorem isIdentifierContinue_of_covered
    (h : covered identifierContinueSet.ranges.toList ⟨n, n, 1⟩ = true)
    (hn : (CodeRange.mk n n 1).isBeyondAscii = true) :
    isIdentifierContinue (Char.ofNat n) = true := by
  have hself : (CodeRange.mk n n 1).contains n = true := by simp [CodeRange.contains]
  obtain ⟨hnat, hbeyond⟩ := toNat_ofNat_of_isBeyondAscii hn hself
  have hset := (RangeSet.contains_iff increasing_continues).2 (exists_of_covered h hself)
  simp [isIdentifierContinue, isAscii, hnat, Nat.not_lt.2 hbeyond, hset]

/-- What lies apart from both sets is no identifier character. -/
theorem not_isIdentifierContinue_of_isApart (hc : isAscii c = false)
    (hstarts : identifierStartSet.ranges.toList.all (·.isApart e) = true)
    (hcontinues : identifierContinueSet.ranges.toList.all (·.isApart e) = true)
    (hn : e.contains c.toNat = true) : isIdentifierContinue c = false := by
  have hno : ∀ s : RangeSet, s.ranges.toList.all (·.isApart e) = true →
      s.contains c.toNat = false := by
    intro s hs
    refine Bool.eq_false_iff.2 fun hmem => ?_
    obtain ⟨r, hr, hrn⟩ := RangeSet.exists_of_contains hmem
    have := CodeRange.not_contains_of_isApart (List.all_eq_true.1 hs r hr) hn
    exact Bool.false_ne_true (this.symm.trans hrn)
  have hdigit : c.isDigit = false := by
    have hbeyond : 128 ≤ c.toNat := by simpa [isAscii] using hc
    have hnat : c.val.toNat = c.toNat := rfl
    simp [Char.isDigit, UInt32.le_iff_toNat_le]
    omega
  simp [isIdentifierContinue, isIdentifierStart, hc, hdigit, hno _ hstarts, hno _ hcontinues]

/-- What an entry for letters sends a letter to is a word. -/
theorem isWord_imageAt {m : MapEntry}
    (h : keepsLetters identifierStartSet.ranges.toList identifierContinueSet.ranges.toList m = true)
    (hc : isAscii c = false) (hcontinue : isIdentifierContinue c = true)
    (hn : m.range.contains c.toNat = true) :
    isIdentifierStart c = true ∧ isWord ((m.imageAt c.toNat).map Char.ofNat) = true := by
  rw [keepsLetters, Bool.or_eq_true] at h
  rcases h with h | h
  · rw [Bool.and_eq_true] at h
    obtain ⟨hsource, himage⟩ := h
    refine ⟨by simpa using isIdentifierStart_of_letters hsource hn, ?_⟩
    have hpoint : ∀ m, (CodeRange.mk m m 1).contains m = true := by simp [CodeRange.contains]
    unfold MapEntry.imageAt
    split at himage
    · cases himage
    · rename_i target htarget
      have hmoved : (CodeRange.mk target (target + (m.range.hi - m.range.lo)) m.range.step).contains
          (target + (c.toNat - m.range.lo)) = true := by
        simp only [CodeRange.contains, Bool.and_eq_true, decide_eq_true_eq] at hn ⊢
        refine ⟨by omega, ?_⟩
        rw [Nat.add_sub_cancel_left]
        exact hn.2
      simp [htarget, isWord, isIdentifierStart_of_letters himage hmoved]
    · rename_i target more hsingle hmore
      rw [Bool.and_eq_true] at himage
      have htail : (more.map Char.ofNat).all isIdentifierContinue = true := by
        rw [List.all_map, List.all_eq_true]
        intro k hk
        have := List.all_eq_true.1 himage.2 k hk
        rw [Bool.and_eq_true] at this
        exact isIdentifierContinue_of_covered this.2 this.1
      cases more with
      | nil => exact absurd rfl hsingle
      | cons k ks =>
        simp only [hmore, List.map_cons, isWord, Bool.and_eq_true]
        exact ⟨isIdentifierStart_of_letters himage.1 (hpoint target), by simpa using htail⟩
  · rw [Bool.and_eq_true] at h
    have := not_isIdentifierContinue_of_isApart hc h.1 h.2 hn
    exact absurd hcontinue (by simp [this])

/-- **The lower case of an identifier character** is the character itself, or a word, and then the
character may start one as well. -/
theorem toLower_of_isIdentifierContinue (h : isIdentifierContinue c = true) :
    toLower c = [c] ∨ (isIdentifierStart c = true ∧ isWord (toLower c) = true) := by
  cases hc : isAscii c with
  | true =>
    exact of_isAscii (p := fun c => toLower c = [c] ∨
      (isIdentifierStart c = true ∧ isWord (toLower c) = true)) (by decide) hc
  | false =>
    simp only [toLower, hc]
    cases hfind : toLowerMap.find? c.toNat with
    | none => exact .inl rfl
    | some image =>
      obtain ⟨m, hm, hn, rfl⟩ := RangeMap.exists_of_find? hfind
      have hagree := sets_agree
      simp only [agree, Bool.and_eq_true] at hagree
      exact .inr (isWord_imageAt (List.all_eq_true.1 hagree.1.2 m hm) hc h hn)

/-! ## Texts -/

/-- What stands for a character of a text in its lower case. -/
theorem exists_lowercaseAfter_cons (h : isIdentifierContinue c = true) (before cs : List Char) :
    ∃ image, lowercaseAfter before (c :: cs) = image ++ lowercaseAfter (c :: before) cs ∧
      (image = [c] ∨ (isIdentifierStart c = true ∧ isWord image = true)) := by
  refine ⟨_, lowercaseAfter.eq_2 .., ?_⟩
  split
  · rename_i hc
    refine .inr ⟨isIdentifierStart_of_mem_sigmas (by simp [hc, sigmas]), ?_⟩
    split
    · simp [isWord, isIdentifierStart_of_mem_sigmas (c := 'ς') (by simp [sigmas])]
    · simp [isWord, isIdentifierStart_of_mem_sigmas (c := 'σ') (by simp [sigmas])]
  · exact toLower_of_isIdentifierContinue h

theorem lowercaseAfter_ne_nil (h : isIdentifierContinue c = true) (before : List Char) :
    lowercaseAfter before (c :: cs) ≠ [] := by
  obtain ⟨image, heq, himage⟩ := exists_lowercaseAfter_cons h before cs
  rw [heq]
  rcases himage with rfl | ⟨-, hword⟩
  · exact List.cons_ne_nil _ _
  · cases image with
    | nil => cases hword
    | cons d image => exact List.cons_ne_nil _ _

/-- The lower case of identifier characters is made of identifier characters. -/
theorem all_isIdentifierContinue_lowercaseAfter (h : cs.all isIdentifierContinue = true)
    (before : List Char) : (lowercaseAfter before cs).all isIdentifierContinue = true := by
  induction cs generalizing before with
  | nil => rfl
  | cons c cs ih =>
    rw [List.all_cons, Bool.and_eq_true] at h
    obtain ⟨image, heq, himage⟩ := exists_lowercaseAfter_cons h.1 before cs
    rw [heq, List.all_append, ih h.2, Bool.and_true]
    rcases himage with rfl | ⟨-, hword⟩
    · simpa using h.1
    · exact all_isIdentifierContinue_of_isWord hword

/-- **The lower case of identifier characters is a word exactly where they are one.** -/
theorem isWord_lowercaseAfter (h : cs.all isIdentifierContinue = true) (before : List Char) :
    isWord (lowercaseAfter before cs) = isWord cs := by
  cases cs with
  | nil => rfl
  | cons c cs =>
    rw [List.all_cons, Bool.and_eq_true] at h
    obtain ⟨image, heq, himage⟩ := exists_lowercaseAfter_cons h.1 before cs
    have hrest := all_isIdentifierContinue_lowercaseAfter h.2 (c :: before)
    rw [heq]
    rcases himage with rfl | ⟨hstart, hword⟩
    · simp only [List.singleton_append, isWord, hrest, h.2]
    · rw [isWord_append hword hrest, isWord, hstart, h.2]
      rfl

end DeclSynth.Unicode
