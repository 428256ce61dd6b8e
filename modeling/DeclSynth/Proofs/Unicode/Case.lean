import DeclSynth.Proofs.Unicode.Lowercase

/-!
# Capitals and small letters

No character is a capital and a small letter as well (`not_isLowercase_of_isUppercase`).
This is read off the two tables, which are computed with once (`exists_parted`).
-/

namespace DeclSynth.Unicode

variable {c : Char} {n : Nat} {r e : CodeRange}

/-! ## The tables -/

/-- Whether all points of a range are even, or all of them odd. -/
def CodeRange.keepsParity (r : CodeRange) : Bool := r.step % 2 == 0 || r.lo == r.hi

theorem CodeRange.mod_two_eq (h : r.keepsParity = true) (hn : r.contains n = true) :
    n % 2 = r.lo % 2 := by
  simp only [keepsParity, contains, Bool.or_eq_true, Bool.and_eq_true, decide_eq_true_eq,
    beq_iff_eq] at h hn
  obtain ⟨⟨hlo, hhi⟩, hpoint⟩ := hn
  rcases h with hstep | hsingle
  · have := Nat.dvd_trans (Nat.dvd_of_mod_eq_zero hstep) (Nat.dvd_of_mod_eq_zero hpoint)
    omega
  · have : n = r.lo := by omega
    rw [this]

/-- Whether two ranges lie apart, or list points of different parity. -/
def CodeRange.isParted (r e : CodeRange) : Bool :=
  r.hi.blt e.lo || e.hi.blt r.lo || (r.keepsParity && e.keepsParity && r.lo % 2 != e.lo % 2)

theorem CodeRange.not_contains_of_isParted (h : r.isParted e = true) (hn : e.contains n = true) :
    r.contains n = false := by
  rw [isParted, Bool.or_eq_true] at h
  rcases h with h | h
  · exact not_contains_of_isApart (by simpa [isApart] using h) hn
  · rw [Bool.and_eq_true, Bool.and_eq_true, bne_iff_ne] at h
    obtain ⟨⟨hr, he⟩, hlo⟩ := h
    refine Bool.eq_false_iff.2 fun hmem => hlo ?_
    rw [← mod_two_eq hr hmem, mod_two_eq he hn]

set_option maxRecDepth 100000 in
/-- No range of one table meets a range of the other one. -/
theorem exists_parted : ∃ uppers lowers, uppercaseText = String.ofList uppers ∧
    lowercaseText = String.ofList lowers ∧
    (rangesOf uppers).all (fun r => (rangesOf lowers).all (r.isParted ·)) = true :=
  ⟨_, _, rfl, rfl, by decide +kernel⟩

/-- No code point is in both sets. -/
theorem sets_parted (h : uppercaseSet.contains n = true) : lowercaseSet.contains n = false := by
  obtain ⟨uppers, lowers, huppers, hlowers, hparted⟩ := exists_parted
  refine Bool.eq_false_iff.2 fun hmem => ?_
  obtain ⟨r, hr, hupper⟩ := RangeSet.exists_of_contains h
  obtain ⟨e, he, hlower⟩ := RangeSet.exists_of_contains hmem
  rw [uppercaseSet, ranges_ofText, huppers, String.toList_ofList] at hr
  rw [lowercaseSet, ranges_ofText, hlowers, String.toList_ofList] at he
  have hpair := List.all_eq_true.1 (List.all_eq_true.1 hparted r hr) e he
  rw [CodeRange.not_contains_of_isParted hpair hlower] at hupper
  cases hupper

/-! ## Characters -/

/-- **No capital is a small letter.** -/
theorem not_isLowercase_of_isUppercase (h : isUppercase c = true) : isLowercase c = false := by
  cases hc : isAscii c with
  | true =>
    exact of_isAscii (p := fun c => isUppercase c = true → isLowercase c = false) (by decide) hc h
  | false =>
    rw [isUppercase, hc, if_neg Bool.false_ne_true] at h
    rw [isLowercase, hc, if_neg Bool.false_ne_true]
    exact sets_parted h

end DeclSynth.Unicode
