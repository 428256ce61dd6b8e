import DeclSynth.Proofs.Argument
import Mathlib.Data.List.Induction

/-!
# What is wrong with an argument list

An argument `Offends` by its label or its place, told by the arguments before it. A list is
`Accepted` if none offends and nothing is missing, and otherwise `Refused` with one failure: that
of the leftmost argument that offends, or else that of the first thing that is missing. One
argument is checked against the labels before it (`checkArgument_eq_error_iff`), so the loop stops
at the leftmost that offends (`checkArguments_eq_error_iff`), and the check of a list comes to its
verdict (`validate_verdict`).
-/

namespace DeclSynth.ArgumentList

variable {spec : ArgumentSpec} {seen : List String} {before as : List Argument} {a : Argument}
  {f : Failure} {l : ArgumentList}

/-! ## Verdicts -/

/-- Whether a label is given by one of some arguments, as it is compared. -/
def Gives (as : List Argument) (key : String) : Prop := ∃ a ∈ as, a.key? = some key

/-- What is wrong with an argument behind some others. A label that is not known is reported as
such, also where it is given again. -/
inductive Offends (spec : ArgumentSpec) (before : List Argument) : Argument → Failure → Prop where
  | unknown {label : Ident} {value : Expr} (unknown : label.plainText ∉ spec.labels) :
      Offends spec before ⟨some label, value⟩
        ((ExpandError.unknownArgument spec.expander label.plainText).at label.span)
  | duplicate {label : Ident} {value : Expr} (known : label.plainText ∈ spec.labels)
      (again : Gives before label.plainText) :
      Offends spec before ⟨some label, value⟩
        ((ExpandError.duplicateArgument label.plainText).at label.span)
  /-- A bare value stands behind another argument, or where none is taken. -/
  | misplaced {value : Expr} (misplaced : before ≠ [] ∨ spec.positional = .forbidden) :
      Offends spec before ⟨none, value⟩
        ((ExpandError.unexpectedPositional spec.expander).at value.span)

/-- No argument offends. -/
def Harmless (spec : ArgumentSpec) (as : List Argument) : Prop :=
  ∀ before a after, as = before ++ a :: after → ∀ f, ¬ Offends spec before a f

/-- Whether the leftmost of some arguments that offends does so with a failure. -/
def OffendsFirst (spec : ArgumentSpec) (as : List Argument) (f : Failure) : Prop :=
  ∃ front a back, as = front ++ a :: back ∧ Harmless spec front ∧ Offends spec front a f

/-- Whether a list is what an expander takes. -/
structure Accepted (spec : ArgumentSpec) (l : ArgumentList) : Prop where
  known : ∀ a ∈ l.arguments, ∀ key, a.key? = some key → key ∈ spec.labels
  distinct : (l.arguments.filterMap Argument.key?).Nodup
  /-- A bare value stands at the beginning, and where one is taken. -/
  placed : ∀ i value, l.arguments[i]? = some ⟨none, value⟩ → i = 0 ∧ spec.positional ≠ .forbidden
  bare : ∀ what, spec.positional = .required what → ∃ a ∈ l.arguments, a.label = none
  present : ∀ key ∈ spec.required, Gives l.arguments key

/-- The failure with which a list is refused. -/
inductive Refused (spec : ArgumentSpec) (l : ArgumentList) : Failure → Prop where
  /-- The leftmost argument that offends. -/
  | argument {f : Failure} (offends : OffendsFirst spec l.arguments f) : Refused spec l f
  /-- No argument offends, but a bare value is required. -/
  | positional {what : String} (harmless : Harmless spec l.arguments)
      (required : spec.positional = .required what)
      (missing : ∀ a ∈ l.arguments, a.label ≠ none) :
      Refused spec l ((ExpandError.missingArgument what).at l.span)
  /-- Nothing else is wrong, but a label is missing: the first one in the order in which they are
  required. -/
  | label {before after : List String} {key : String} (harmless : Harmless spec l.arguments)
      (bare : ∀ what, spec.positional = .required what → ∃ a ∈ l.arguments, a.label = none)
      (split : spec.required = before ++ key :: after)
      (present : ∀ k ∈ before, Gives l.arguments k) (missing : ¬ Gives l.arguments key) :
      Refused spec l ((ExpandError.missingArgument ("`" ++ key ++ "` argument")).at l.span)

/-! ## One argument -/

theorem gives_concat {key : String} :
    Gives (before ++ [a]) key ↔ Gives before key ∨ a.key? = some key := by
  simp [Gives, or_and_right, exists_or]

/-- Behind an argument, none offends exactly if none did before it and it does not either. -/
theorem harmless_concat :
    Harmless spec (before ++ [a]) ↔ Harmless spec before ∧ ∀ f, ¬ Offends spec before a f := by
  constructor
  · intro h
    refine ⟨fun front b after hsplit => h front b (after ++ [a]) (by simp [hsplit]), ?_⟩
    exact h before a [] rfl
  · rintro ⟨hbefore, ha⟩ front b after hsplit
    rcases List.eq_nil_or_concat after with rfl | ⟨after, last, rfl⟩
    · obtain ⟨rfl, hab⟩ := List.append_inj' hsplit rfl
      rw [← (List.cons.inj hab).1]
      exact ha
    · rw [List.concat_eq_append, ← List.cons_append, ← List.append_assoc] at hsplit
      exact hbefore front b after (List.append_inj' hsplit rfl).1

/-- **An argument is refused for what is wrong with it**, where the labels seen are those given
before. -/
theorem checkArgument_eq_error_iff (hseen : ∀ key, key ∈ seen ↔ Gives before key) :
    checkArgument spec before.isEmpty seen a = .error f ↔ Offends spec before a f := by
  obtain ⟨label, value⟩ := a
  cases label with
  | none =>
    have hwhere : (!before.isEmpty || spec.positional == .forbidden) = true ↔
        before ≠ [] ∨ spec.positional = .forbidden := by simp
    simp only [checkArgument, hwhere]
    constructor
    · intro h
      split at h
      next hmisplaced =>
        cases h
        exact .misplaced hmisplaced
      next => cases h
    · intro h
      cases h with
      | misplaced hmisplaced => rw [if_pos hmisplaced]
  | some label =>
    have hknown : (!spec.labels.contains label.plainText) = true ↔
        label.plainText ∉ spec.labels := by simp
    have hagain : seen.contains label.plainText = true ↔ Gives before label.plainText :=
      List.contains_iff_mem.trans (hseen _)
    constructor
    · intro h
      simp only [checkArgument] at h
      split at h
      next hunknown =>
        cases h
        exact .unknown (hknown.1 hunknown)
      next hlisted =>
        split at h
        next hseen =>
          cases h
          exact .duplicate (not_not.1 (mt hknown.2 hlisted)) (hagain.1 hseen)
        next => cases h
    · intro h
      simp only [checkArgument]
      cases h with
      | unknown hunknown => rw [if_pos (hknown.2 hunknown)]
      | duplicate hlisted hgiven =>
        rw [if_neg (mt hknown.1 (not_not.2 hlisted)), if_pos (hagain.2 hgiven)]

/-- An argument that passes adds its label to those seen. -/
theorem mem_of_checkArgument {after : List String} {first : Bool}
    (hseen : ∀ key, key ∈ seen ↔ Gives before key)
    (h : checkArgument spec first seen a = .ok after) (key : String) :
    key ∈ after ↔ Gives (before ++ [a]) key := by
  obtain ⟨label, value⟩ := a
  rw [gives_concat, ← hseen]
  cases label with
  | none =>
    simp only [checkArgument] at h
    split at h
    · cases h
    · cases h
      simp [Argument.key?]
  | some label =>
    simp only [checkArgument] at h
    split at h
    · cases h
    · split at h
      · cases h
      · cases h
        simp [Argument.key?, or_comm, eq_comm]

/-! ## One argument after the other -/

/-- What the loop over some arguments comes to, behind others that do not offend: it stops at the
leftmost that offends, or else has seen the labels that all of them give. -/
theorem checkArguments_spec (hseen : ∀ key, key ∈ seen ↔ Gives before key)
    (hbefore : Harmless spec before) :
    match checkArguments spec before.isEmpty seen as with
    | .ok after => Harmless spec (before ++ as) ∧ ∀ key, key ∈ after ↔ Gives (before ++ as) key
    | .error f => ∃ front a back, as = front ++ a :: back ∧ Harmless spec (before ++ front) ∧
        Offends spec (before ++ front) a f := by
  -- what has passed is behind the rest, so this is about any arguments before these
  induction as generalizing before seen with
  | nil => simpa [checkArguments] using ⟨hbefore, hseen⟩
  | cons a rest ih =>
    rw [checkArguments]
    cases hcheck : checkArgument spec before.isEmpty seen a with
    | error f =>
      refine ⟨[], a, rest, rfl, ?_, ?_⟩ <;> rw [List.append_nil]
      · exact hbefore
      · exact (checkArgument_eq_error_iff hseen).1 hcheck
    | ok after =>
      have hharmless : Harmless spec (before ++ [a]) := by
        refine harmless_concat.2 ⟨hbefore, fun f hf => ?_⟩
        rw [(checkArgument_eq_error_iff hseen).2 hf] at hcheck
        cases hcheck
      have hrest := ih (mem_of_checkArgument hseen hcheck) hharmless
      have hfirst : (before ++ [a]).isEmpty = false := by simp
      rw [hfirst] at hrest
      dsimp only
      cases hloop : checkArguments spec false after rest with
      | ok all => simpa [hloop] using hrest
      | error f =>
        rw [hloop] at hrest
        obtain ⟨front, b, back, rfl, hfront, hb⟩ := hrest
        rw [List.append_assoc, List.singleton_append] at hfront hb
        exact ⟨a :: front, b, back, rfl, hfront, hb⟩

/-- What is wrong with an argument is one thing. -/
theorem Offends.unique {g : Failure} (hf : Offends spec before a f) (hg : Offends spec before a g) :
    f = g := by
  cases hf with
  | unknown hunknown =>
    cases hg with
    | unknown => rfl
    | duplicate hknown => exact absurd hknown hunknown
  | duplicate hknown =>
    cases hg with
    | unknown hunknown => exact absurd hknown hunknown
    | duplicate => rfl
  | misplaced =>
    cases hg with
    | misplaced => rfl

/-- An argument that offends does not stand before the leftmost. -/
theorem exists_eq_append_of_leftmost {front back front' back' : List Argument} {a a' : Argument}
    (heq : front ++ a :: back = front' ++ a' :: back') (hfront : Harmless spec front)
    (ha : Offends spec front' a' f) : ∃ between, front' = front ++ between := by
  rcases List.append_eq_append_iff.1 heq with ⟨between, hbetween, -⟩ | ⟨between, rfl, hrest⟩
  · exact ⟨between, hbetween⟩
  · cases between with
    | nil => exact ⟨[], by simp⟩
    | cons b between =>
      obtain ⟨rfl, -⟩ := List.cons.inj hrest
      exact absurd ha (hfront front' _ between rfl f)

/-- One argument is the leftmost that offends, and what is wrong with it is one thing. -/
theorem OffendsFirst.unique {g : Failure} (hf : OffendsFirst spec as f)
    (hg : OffendsFirst spec as g) : f = g := by
  obtain ⟨front, a, back, rfl, hfront, ha⟩ := hf
  obtain ⟨front', a', back', heq, hfront', ha'⟩ := hg
  obtain ⟨between, rfl⟩ := exists_eq_append_of_leftmost heq hfront ha'
  obtain ⟨between', hfront⟩ := exists_eq_append_of_leftmost heq.symm hfront' ha
  obtain ⟨rfl, -⟩ : between = [] ∧ between' = [] := by
    simpa [List.append_assoc] using hfront
  rw [List.append_nil] at heq ha'
  obtain ⟨rfl, -⟩ := List.cons.inj (List.append_cancel_left heq)
  exact ha.unique ha'

theorem OffendsFirst.not_harmless (h : OffendsFirst spec as f) : ¬ Harmless spec as := by
  obtain ⟨front, a, back, rfl, -, ha⟩ := h
  exact fun hharmless => hharmless front a back rfl f ha

/-- What the loop over a whole list comes to. -/
theorem checkArguments_start :
    match checkArguments spec true [] as with
    | .ok after => Harmless spec as ∧ ∀ key, key ∈ after ↔ Gives as key
    | .error f => OffendsFirst spec as f :=
  @checkArguments_spec spec [] [] as (by simp [Gives]) (fun _ _ _ h => by simp at h)

/-- A loop that gets through has seen the labels of arguments none of which offends. -/
theorem harmless_of_checkArguments {after : List String}
    (h : checkArguments spec true [] as = .ok after) :
    Harmless spec as ∧ ∀ key, key ∈ after ↔ Gives as key := by
  have hspec := @checkArguments_start spec as
  rwa [h] at hspec

/-- **The loop stops at the leftmost argument that offends.** -/
theorem checkArguments_eq_error_iff :
    checkArguments spec true [] as = .error f ↔ OffendsFirst spec as f := by
  have hspec := @checkArguments_start spec as
  constructor
  · intro h
    rwa [h] at hspec
  · intro hfirst
    cases h : checkArguments spec true [] as with
    | ok after => exact absurd (harmless_of_checkArguments h).1 hfirst.not_harmless
    | error g =>
      rw [h] at hspec
      rw [hfirst.unique hspec]

/-! ## The list as a whole -/

/-- An argument does not offend behind some others exactly if its label is known and new, or it
is a bare value at the beginning. -/
theorem not_offends_iff :
    (∀ f, ¬ Offends spec before a f) ↔
      (∀ key, a.key? = some key → key ∈ spec.labels ∧ ¬ Gives before key) ∧
      (a.label = none → before = [] ∧ spec.positional ≠ .forbidden) := by
  obtain ⟨label, value⟩ := a
  constructor
  · intro h
    constructor
    · intro key hkey
      obtain ⟨label, rfl, rfl⟩ := Option.map_eq_some_iff.1 hkey
      have hknown : label.plainText ∈ spec.labels :=
        not_not.1 fun hunknown => h _ (.unknown hunknown)
      exact ⟨hknown, fun hagain => h _ (.duplicate hknown hagain)⟩
    · rintro rfl
      refine not_not.1 fun hmisplaced => h _ (.misplaced ?_)
      exact (not_and_or.1 hmisplaced).imp_right not_not.1
  · rintro ⟨hlabel, hbare⟩ f hf
    cases hf with
    | unknown hunknown => exact hunknown (hlabel _ rfl).1
    | duplicate _ hagain => exact (hlabel _ rfl).2 hagain
    | misplaced hmisplaced =>
      obtain ⟨rfl, hallowed⟩ := hbare rfl
      simp [hallowed] at hmisplaced

/-- With one argument more no label is given twice exactly if none was and the label is new. -/
theorem nodup_keys_concat :
    ((before ++ [a]).filterMap Argument.key?).Nodup ↔
      (before.filterMap Argument.key?).Nodup ∧
        ∀ key, a.key? = some key → ¬ Gives before key := by
  have hgives (key : String) : Gives before key ↔ key ∈ before.filterMap Argument.key? :=
    List.mem_filterMap.symm
  simp only [hgives, List.filterMap_append]
  cases hkey : a.key? with
  | none => simp [hkey]
  | some key => simp [hkey, ← List.concat_eq_append, List.nodup_concat, and_comm]

/-- With one argument more bare values stand where they may exactly if they did and this one may
stand behind the others. -/
theorem placed_concat {allowed : Prop} :
    (∀ i value, (before ++ [a])[i]? = some ⟨none, value⟩ → i = 0 ∧ allowed) ↔
      (∀ i value, before[i]? = some ⟨none, value⟩ → i = 0 ∧ allowed) ∧
        (a.label = none → before = [] ∧ allowed) := by
  constructor
  · intro h
    refine ⟨fun i value hi => h i value ?_, fun hbare => ?_⟩
    · rw [List.getElem?_append_left (List.getElem?_eq_some_iff.1 hi).1, hi]
    · have hlast : (before ++ [a])[before.length]? = some ⟨none, a.value⟩ := by
        rw [List.getElem?_concat_length, ← hbare]
      simpa using h _ _ hlast
  · rintro ⟨hbefore, ha⟩ i value hi
    rw [List.getElem?_append] at hi
    split at hi
    next => exact hbefore i value hi
    next hout =>
      obtain ⟨hzero, rfl⟩ : i - before.length = 0 ∧ a = ⟨none, value⟩ := by
        simpa [List.getElem?_singleton] using hi
      obtain ⟨rfl, hallowed⟩ := ha rfl
      exact ⟨hzero, hallowed⟩

/-- **No argument offends** exactly if all labels are known, none is given twice, and a bare value
stands only at the beginning, where one is taken. -/
theorem harmless_iff :
    Harmless spec as ↔
      (∀ a ∈ as, ∀ key, a.key? = some key → key ∈ spec.labels) ∧
      (as.filterMap Argument.key?).Nodup ∧
      ∀ i value, as[i]? = some ⟨none, value⟩ → i = 0 ∧ spec.positional ≠ .forbidden := by
  -- an argument offends or not by those before it, so the list is taken from its end
  induction as using List.reverseRecOn with
  | nil => simp [Harmless]
  | append_singleton before a ih =>
    rw [harmless_concat, ih, not_offends_iff, nodup_keys_concat, placed_concat]
    simp only [List.forall_mem_append, List.forall_mem_singleton]
    constructor
    · rintro ⟨⟨hknown, hnodup, hplaced⟩, hlabel, hbare⟩
      exact ⟨⟨hknown, fun key hkey => (hlabel key hkey).1⟩,
        ⟨hnodup, fun key hkey => (hlabel key hkey).2⟩, hplaced, hbare⟩
    · rintro ⟨⟨hknown, hlisted⟩, ⟨hnodup, hnew⟩, hplaced, hbare⟩
      exact ⟨⟨hknown, hnodup, hplaced⟩, fun key hkey => ⟨hlisted key hkey, hnew key hkey⟩, hbare⟩

/-- A bare value that is in its place stands where it is looked up. -/
theorem isSome_positional_iff (h : Harmless spec l.arguments) :
    l.positional.isSome = true ↔ ∃ a ∈ l.arguments, a.label = none := by
  obtain ⟨-, -, hplaced⟩ := harmless_iff.1 h
  constructor
  · intro hsome
    unfold positional at hsome
    split at hsome
    next value rest hlist => exact ⟨⟨none, value⟩, hlist ▸ List.mem_cons_self, rfl⟩
    next => cases hsome
  · rintro ⟨⟨label, value⟩, hmem, rfl⟩
    obtain ⟨i, hi⟩ := List.getElem?_of_mem hmem
    obtain ⟨rfl, -⟩ := hplaced i value hi
    unfold positional
    cases hlist : l.arguments with
    | nil => simp [hlist] at hi
    | cons a rest =>
      obtain rfl : a = ⟨none, value⟩ := by simpa [hlist] using hi
      rfl

/-- **A list in which no argument offends is accepted** if what is required is there. -/
theorem accepted_iff :
    Accepted spec l ↔ Harmless spec l.arguments ∧
      (∀ what, spec.positional = .required what → l.positional.isSome = true) ∧
      ∀ key ∈ spec.required, Gives l.arguments key := by
  constructor
  · intro h
    have hharmless := harmless_iff.2 ⟨h.known, h.distinct, h.placed⟩
    exact ⟨hharmless, fun what hwhat => (isSome_positional_iff hharmless).2 (h.bare what hwhat),
      h.present⟩
  · rintro ⟨hharmless, hneeded, hpresent⟩
    obtain ⟨hknown, hdistinct, hplaced⟩ := harmless_iff.1 hharmless
    exact ⟨hknown, hdistinct, hplaced,
      fun what hwhat => (isSome_positional_iff hharmless).1 (hneeded what hwhat), hpresent⟩

/-- The first of some labels that has not been seen. -/
theorem find?_unseen_eq_some_iff {keys : List String} {key : String} :
    keys.find? (!seen.contains ·) = some key ↔
      ∃ front back, keys = front ++ key :: back ∧ (∀ k ∈ front, k ∈ seen) ∧ key ∉ seen := by
  simp only [List.find?_eq_some_iff_append, Bool.not_eq_true', Bool.not_not,
    List.contains_iff_mem, ← Bool.not_eq_true]
  constructor
  · rintro ⟨hmissing, front, back, hsplit, hfront⟩
    exact ⟨front, back, hsplit, hfront, hmissing⟩
  · rintro ⟨front, back, hsplit, hfront, hmissing⟩
    exact ⟨hmissing, front, back, hsplit, hfront⟩

/-- What is missing: a bare value that is required, or else the first required label that has not
been seen. -/
theorem checkPresence_eq_error_iff :
    checkPresence spec l seen = .error f ↔
      (∃ what, spec.positional = .required what ∧ l.positional.isSome = false ∧
        f = (ExpandError.missingArgument what).at l.span) ∨
      (∀ what, spec.positional = .required what → l.positional.isSome = true) ∧
      ∃ front key back, spec.required = front ++ key :: back ∧ (∀ k ∈ front, k ∈ seen) ∧
        key ∉ seen ∧ f = (ExpandError.missingArgument ("`" ++ key ++ "` argument")).at l.span := by
  have hlabel : (∃ front key back, spec.required = front ++ key :: back ∧
      (∀ k ∈ front, k ∈ seen) ∧ key ∉ seen ∧
      f = (ExpandError.missingArgument ("`" ++ key ++ "` argument")).at l.span) ↔
      ∃ key, spec.required.find? (!seen.contains ·) = some key ∧
        f = (ExpandError.missingArgument ("`" ++ key ++ "` argument")).at l.span := by
    simp only [find?_unseen_eq_some_iff]
    grind
  rw [hlabel]
  unfold checkPresence
  cases spec.positional with
  | required what =>
    cases l.positional with
    | none => simp [eq_comm (a := f)]
    | some value => cases spec.required.find? (!seen.contains ·) <;> simp [eq_comm (a := f)]
  | _ => cases spec.required.find? (!seen.contains ·) <;> simp [eq_comm (a := f)]

/-! ## The verdict -/

theorem validate_eq_ok_iff_accepted : l.validate spec = .ok () ↔ Accepted spec l := by
  rw [accepted_iff]
  unfold validate
  cases hcheck : checkArguments spec true [] l.arguments with
  | error f =>
    have hrefused := (checkArguments_eq_error_iff.1 hcheck).not_harmless
    simp [hrefused]
  | ok seen =>
    obtain ⟨hharmless, hseen⟩ := harmless_of_checkArguments hcheck
    simp only [checkPresence_eq_ok_iff, hseen, hharmless, true_and]

theorem validate_eq_error_iff_refused : l.validate spec = .error f ↔ Refused spec l f := by
  unfold validate
  cases hcheck : checkArguments spec true [] l.arguments with
  | error g =>
    have hoffends := checkArguments_eq_error_iff.1 hcheck
    constructor
    · rintro ⟨⟩
      exact .argument hoffends
    · intro h
      cases h with
      | argument hfirst => rw [hfirst.unique hoffends]
      | positional hharmless => exact absurd hharmless hoffends.not_harmless
      | label hharmless => exact absurd hharmless hoffends.not_harmless
  | ok seen =>
    obtain ⟨hharmless, hseen⟩ := harmless_of_checkArguments hcheck
    have hbare := isSome_positional_iff hharmless
    rw [checkPresence_eq_error_iff]
    constructor
    · rintro (⟨what, hrequired, hnone, rfl⟩ |
        ⟨hneeded, front, key, back, hsplit, hfront, hkey, rfl⟩)
      · refine .positional hharmless hrequired fun a ha hlabel => ?_
        rw [hbare.2 ⟨a, ha, hlabel⟩] at hnone
        cases hnone
      · exact .label hharmless (fun what hwhat => hbare.1 (hneeded what hwhat)) hsplit
          (fun k hk => (hseen k).1 (hfront k hk)) (mt (hseen key).2 hkey)
    · intro h
      cases h with
      | argument hfirst => exact absurd hharmless hfirst.not_harmless
      | @positional what _ hrequired hmissing =>
        refine .inl ⟨what, hrequired, ?_, rfl⟩
        rw [← Bool.not_eq_true, hbare]
        exact fun ⟨a, ha, hlabel⟩ => hmissing a ha hlabel
      | @label front back key _ hneeded hsplit hpresent hmissing =>
        exact .inr ⟨fun what hwhat => hbare.2 (hneeded what hwhat), front, key, back, hsplit,
          fun k hk => (hseen k).2 (hpresent k hk), mt (hseen key).1 hmissing, rfl⟩

/-- **A list is accepted, or refused with the failure that its verdict names.** -/
theorem validate_verdict (l : ArgumentList) (spec : ArgumentSpec) :
    (l.validate spec = .ok () ↔ Accepted spec l) ∧
      ∀ f, l.validate spec = .error f ↔ Refused spec l f :=
  ⟨validate_eq_ok_iff_accepted, fun _ => validate_eq_error_iff_refused⟩

end DeclSynth.ArgumentList
