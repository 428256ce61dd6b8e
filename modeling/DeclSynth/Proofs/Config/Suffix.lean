import DeclSynth.Proofs.Naming.Stem
import DeclSynth.Proofs.Sealed.Invocation

/-!
# Validated configurations

A validated configuration is never what an expansion fails for. Its suffixes,
though, are validated as the text of a fragment, which may have blanks around it,
and are then appended as they are written. So `validate_spec` says exactly which
suffixes make names of all names: a peer's suffix has to be made of identifier
characters, and so has a discriminator's, which must not turn a raw word into one
that cannot be raw.
-/

namespace DeclSynth.Config

open Unicode Ident Naming

variable {c : Config} {text suffix : String}

/-! ## Suffixes -/

/-- Whether a text is made of identifier characters. -/
def Continues (text : String) : Prop := text.toList.all isIdentifierContinue = true

instance : Decidable (Continues text) := inferInstanceAs (Decidable (_ = true))

/-- With identifier characters behind it, a word is a name. -/
theorem isName_append_of_isWord (h : isWord text.toList = true) (hs : Continues suffix) :
    isName (text ++ suffix) = true := by
  rw [append_eq_ofList]
  exact isName_ofList_of_isWord (isWord_append h hs)

/-- What is appended to the name `run` has to be identifier characters. -/
theorem continues_of_isName_run (h : isName ("run" ++ suffix) = true) : Continues suffix := by
  rw [append_eq_ofList] at h
  unfold isName at h
  split at h
  · rename_i rest heq
    rw [String.toList_ofList] at heq
    exact absurd (List.cons.inj (List.cons.inj heq).2).1 (by decide)
  · rw [String.toList_ofList] at h
    have hall := all_isIdentifierContinue_of_isWord h
    rw [List.all_append, Bool.and_eq_true] at hall
    exact hall.2

/-- A name to try suffixes on. -/
def run : Ident := .word ['r', 'u', 'n'] (by decide)

/-- **Which suffixes name peers**: those made of identifier characters, and not empty. -/
theorem forall_peer_iff :
    (∀ f : Ident, isName (f.plainText ++ suffix) = true ∧ f.plainText ++ suffix ≠ f.plainText) ↔
      Continues suffix ∧ suffix ≠ "" := by
  constructor
  · intro h
    refine ⟨continues_of_isName_run (h run).1, ?_⟩
    rintro rfl
    exact (h run).2 String.append_empty
  · rintro ⟨hcontinues, hne⟩ f
    refine ⟨isName_append_of_isWord f.isWord_plainText hcontinues, fun heq => hne ?_⟩
    have hlist := congrArg String.toList heq
    rw [String.toList_append, List.append_right_eq_self] at hlist
    exact String.toList_eq_nil_iff.1 hlist

/-- A text that a word ends with, neither empty nor the whole word. -/
def ProperEnd (suffix word : String) : Prop :=
  suffix.toList <:+ word.toList ∧ suffix ≠ "" ∧ suffix ≠ word

instance {word : String} : Decidable (ProperEnd suffix word) :=
  inferInstanceAs (Decidable (_ ∧ _))

/-- What comes before a proper end of a word that cannot be raw is a word that can. -/
theorem exists_raw_of_properEnd {word : String} (hword : word ∈ neverRaw)
    (h : ProperEnd suffix word) : ∃ stem : List Char,
      stem ++ suffix.toList = word.toList ∧ isName (String.ofList ('r' :: '#' :: stem)) = true := by
  obtain ⟨⟨stem, hstem⟩, hne, hproper⟩ := h
  refine ⟨stem, hstem, ?_⟩
  have hstarts : ∀ w ∈ neverRaw, ∀ n < w.toList.length, 0 < n →
      isName (String.ofList ('r' :: '#' :: w.toList.take n)) = true := by decide
  have htake : stem = word.toList.take stem.length := by
    rw [← hstem, List.take_left']
    rfl
  have hlength : stem.length + suffix.toList.length = word.toList.length := by
    rw [← hstem, List.length_append]
  have hsuffix : 0 < suffix.toList.length :=
    List.length_pos_iff.2 fun hnil => hne (String.toList_eq_nil_iff.1 hnil)
  rw [htake]
  refine hstarts word hword stem.length (by omega) (List.length_pos_iff.2 ?_)
  rintro rfl
  exact hproper (String.toList_inj.1 hstem)

/-- **Which suffixes name discriminators**: those made of identifier characters, unless they end a
word that cannot be raw. -/
theorem forall_discriminator_iff :
    (∀ stem, isName stem = true → isName (stem ++ suffix) = true) ↔
      Continues suffix ∧ ∀ word ∈ neverRaw, ¬ ProperEnd suffix word := by
  constructor
  · intro h
    refine ⟨continues_of_isName_run (h "run" run.valid), fun word hword hend => ?_⟩
    obtain ⟨stem, hstem, hname⟩ := exists_raw_of_properEnd hword hend
    have hmore := h _ hname
    rw [append_eq_ofList, String.toList_ofList, List.cons_append, List.cons_append, hstem,
      isName_ofList_raw, String.ofList_toList] at hmore
    rw [List.contains_iff_mem.2 hword, Bool.not_true, Bool.and_false] at hmore
    cases hmore
  · rintro ⟨hcontinues, hends⟩ stem hstem
    unfold isName at hstem
    split at hstem
    · rename_i word heq
      rw [Bool.and_eq_true, Bool.not_eq_true', ← Bool.not_eq_true, List.contains_iff_mem] at hstem
      rw [append_eq_ofList, heq, List.cons_append, List.cons_append, isName_ofList_raw,
        isWord_append hstem.1 hcontinues, Bool.true_and, Bool.not_eq_true', ← Bool.not_eq_true,
        List.contains_iff_mem]
      -- what the suffix completes to a word that cannot be raw, it ends
      intro hmem
      refine hends _ hmem ⟨?_, ?_, ?_⟩
      · rw [String.toList_ofList]
        exact List.suffix_append word suffix.toList
      · rintro rfl
        exact hstem.2 (by simpa using hmem)
      · intro heq
        have hlist := congrArg String.toList heq
        rw [String.toList_ofList, List.self_eq_append_left] at hlist
        subst hlist
        exact absurd hstem.1 (by decide)
    · exact isName_append_of_isWord hstem hcontinues

/-! ## Panics -/

/-- A peer is made wherever its name is one. -/
theorem peer_eq_error_iff {f : FnItem} {h : CompletionHandler} {inImpl : Bool} {runtime : Path} :
    (∃ fault, AsyncPeer.of f h inImpl runtime suffix = .error fault) ↔
      isName (f.sig.name.plainText ++ suffix) = false := by
  unfold AsyncPeer.of
  cases hname : isName (f.sig.name.plainText ++ suffix) with
  | false => simp [ofText_of_not_isName hname, bind, Except.bind]
  | true => simp [ofText_of_isName hname, bind, Except.bind, pure, Except.pure]

/-- With a suffix of identifier characters, no peer makes an expansion panic. -/
theorem peer_ne_panic (hs : Continues c.asyncSuffix) {args item : Tokens} {fault : NameFault} :
    (AsyncPeer.expand c args item).result ≠ .error (.panic fault) := by
  intro h
  rw [AsyncPeer.expand, (AsyncPeer.carriesOut_inContext c args item).fresh_eq] at h
  simp only [Outcome.result_bind_eq_error, Outcome.result_liftM_syntax_error,
    Outcome.result_liftM_failure_error, reduceCtorEq, and_false, exists_false, false_or] at h
  obtain ⟨l, -, -, -, inImpl, -, runtime, -, it, -, h⟩ := h
  -- all else stops with a failure, so the fault is that of the peer's name
  split at h
  · simp only [Outcome.result_bind_eq_error, Outcome.result_liftM_failure_error, reduceCtorEq,
      and_false, exists_false, false_or, Outcome.result_liftM_name_error, Outcome.result_log_error,
      Outcome.result_pure, or_false] at h
    obtain ⟨handler, -, fault', hpeer, -⟩ := h
    have := peer_eq_error_iff.1 ⟨fault', hpeer⟩
    rw [isName_append_of_isWord (isWord_plainText _) hs] at this
    cases this
  · simp at h

/-- `fn run(done: impl Fn(u8)) {}` -/
def runSample : Tokens :=
  kw "fn" ++ kw "run" ++ paren (kw "done" ++ op ":" ++ kw "impl" ++ kw "Fn" ++ paren (kw "u8")) ++
    brace []

/-- Whether an item is a function named `run` that a peer can be made for. -/
def runs : Item → Bool
  | .fn f => f.sig.name.plainText == "run" && (CompletionHandler.ofSignature f.sig).isOk
  | _ => false

/-- With any other suffix, the peer of `run` makes an expansion panic. -/
theorem exists_peer_panic (fs : c.Fragments) (hs : ¬ Continues c.asyncSuffix) :
    ∃ fault, (AsyncPeer.expand c [] runSample).result = .error (.panic fault) := by
  have hsample : (Item.parse runSample).toOption.any runs = true := by decide +kernel
  cases hitem : Item.parse runSample with
  | error e => simp [hitem, Except.toOption] at hsample
  | ok it =>
    rw [hitem] at hsample
    simp only [Except.toOption, Option.any_some] at hsample
    cases it with
    | fn f =>
      simp only [runs, Bool.and_eq_true, beq_iff_eq] at hsample
      obtain ⟨handler, hhandler⟩ := exists_eq_ok_of_isOk hsample.2
      have hname : isName (f.sig.name.plainText ++ c.asyncSuffix) = false := by
        rw [hsample.1, ← Bool.not_eq_true]
        exact fun h => hs (continues_of_isName_run h)
      have hlist : ArgumentList.parse [] = .ok ⟨[], .callSite⟩ := rfl
      have hvalid : (⟨[], .callSite⟩ : ArgumentList).validate AsyncPeer.spec = .ok () := rfl
      have hflag : AsyncPeer.inImplFlag ⟨[], .callSite⟩ = .ok false := rfl
      have hruntime : c.runtimeFor ⟨[], .callSite⟩ = .ok fs.runtime := fs.runtimeFor_eq rfl
      obtain ⟨fault, hfault⟩ := peer_eq_error_iff.2 hname
      refine ⟨fault, ?_⟩
      -- what comes before the peer is the same for all suffixes
      rw [AsyncPeer.expand, (AsyncPeer.carriesOut_inContext c [] runSample).fresh_eq]
      rw [Outcome.result_bind_of_ok (Outcome.result_liftM_syntax.2 hlist),
        Outcome.result_bind_of_ok (Outcome.result_liftM_failure.2 hvalid),
        Outcome.result_bind_of_ok (Outcome.result_liftM_failure.2 hflag),
        Outcome.result_bind_of_ok (Outcome.result_liftM_failure.2 hruntime),
        Outcome.result_bind_of_ok (Outcome.result_liftM_syntax.2 hitem)]
      dsimp only
      rw [Outcome.result_bind_of_ok (Outcome.result_liftM_failure.2 hhandler),
        Outcome.result_bind_eq_error]
      exact .inl (Outcome.result_liftM_name_error.2 ⟨fault, hfault, rfl⟩)
    | _ => cases hsample

/-- With a suffix that names discriminators, a role makes an expansion panic by its own names
only. -/
theorem exists_role_of_panic
    (hs : ∀ stem, isName stem = true → isName (stem ++ c.sealedSuffix) = true) {args item : Tokens}
    (h : ∃ fault, (Sealed.expand c args item).result = .error (.panic fault)) :
    ∃ (m : Sealed.Invocation args item) (role : Ident), m.ComesTo c role ∧
      (isName (roleStem role.text m.base.text) = false ∨
        isName (classifierName (roleStem role.text m.base.text)) = false) := by
  obtain ⟨m, role, hcomes, hnames⟩ := Sealed.expand_panics_iff.1 h
  refine ⟨m, role, hcomes, ?_⟩
  by_cases hstem : isName (roleStem role.text m.base.text) = true
  · refine .inr (Bool.eq_false_iff.2 fun hclassifier => hnames ⟨?_, hclassifier⟩)
    exact hs _ hstem
  · exact .inl (Bool.eq_false_iff.2 hstem)

/-! ## Validated configurations -/

/-- **What validating a configuration is good for.** No expansion fails for its sake. A peer's
suffix makes a new name of every name, and a discriminator's a name, exactly where it fits; then no
peer makes an expansion panic, and a role does so by its own names only. -/
theorem validate_spec (hc : c.validate = .ok ()) :
    (∀ (kind : Expander) (args item : Tokens) (f : Failure),
      (∀ l, ArgumentList.parse args = .ok l → l.get? "crate" = none) →
      (kind.run c args item).result = .error (.failure f) →
        f.error.category ≠ .configuration) ∧
    ((∀ f : Ident, isName (f.plainText ++ c.asyncSuffix) = true ∧
        f.plainText ++ c.asyncSuffix ≠ f.plainText) ↔
      Continues c.asyncSuffix ∧ c.asyncSuffix ≠ "") ∧
    ((∀ args item fault, (AsyncPeer.expand c args item).result ≠ .error (.panic fault)) ↔
      Continues c.asyncSuffix) ∧
    ((∀ stem, isName stem = true → isName (stem ++ c.sealedSuffix) = true) ↔
      Continues c.sealedSuffix ∧ ∀ word ∈ neverRaw, ¬ ProperEnd c.sealedSuffix word) ∧
    ((Continues c.sealedSuffix ∧ ∀ word ∈ neverRaw, ¬ ProperEnd c.sealedSuffix word) →
      ∀ args item, (∃ fault, (Sealed.expand c args item).result = .error (.panic fault)) →
        ∃ (m : Sealed.Invocation args item) (role : Ident), m.ComesTo c role ∧
          (isName (roleStem role.text m.base.text) = false ∨
            isName (classifierName (roleStem role.text m.base.text)) = false)) := by
  obtain ⟨fs⟩ := nonempty_fragments hc
  refine ⟨fun kind args item f hargs hf => kind.blameless_run fs hargs item f hf, forall_peer_iff,
    ⟨fun h => ?_, fun hs _ _ _ => peer_ne_panic hs⟩, forall_discriminator_iff,
    fun hs _ _ h => exists_role_of_panic (forall_discriminator_iff.2 hs) h⟩
  refine Decidable.byContradiction fun hs => ?_
  obtain ⟨fault, hfault⟩ := exists_peer_panic fs hs
  exact h _ _ fault hfault

/-- The default configuration is validated, and its suffixes make names of all names. -/
theorem validate_spec_default : Config.default.validate = .ok () ∧
    (∀ f : Ident, isName (f.plainText ++ "_async") = true ∧
      f.plainText ++ "_async" ≠ f.plainText) ∧
    ∀ stem, isName stem = true → isName (stem ++ "SealedType") = true := by
  obtain ⟨⟨⟩, hc⟩ := exists_eq_ok_of_isOk (x := Config.default.validate) (by decide +kernel)
  obtain ⟨-, hpeer, -, hdiscriminator, -⟩ := validate_spec hc
  exact ⟨hc, hpeer.2 ⟨by decide, by decide⟩, hdiscriminator.2 ⟨by decide, by decide⟩⟩

/-- The default configuration, but for a blank behind the suffix of peers. -/
def padded : Config := { Config.default with asyncSuffix := "_async " }

/-- A suffix with a blank behind it is validated, and its peers make an expansion panic. -/
theorem exists_panic_padded : padded.validate = .ok () ∧
    ∃ fault, (AsyncPeer.expand padded [] runSample).result = .error (.panic fault) := by
  obtain ⟨⟨⟩, hc⟩ := exists_eq_ok_of_isOk (x := padded.validate) (by decide +kernel)
  exact ⟨hc, Outcome.panics_iff.1 (by decide +kernel)⟩

end DeclSynth.Config
