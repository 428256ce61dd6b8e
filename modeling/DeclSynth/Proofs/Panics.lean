import DeclSynth.Proofs.Assembly
import DeclSynth.Proofs.StoredFields.Agreement
import DeclSynth.Proofs.Token

/-!
# Expansions that never panic

An expansion panics where a name that it builds is none. The expanders that derive no name from the
case of another one never do, under the suffix that peers have by default, and all that they build
of an item comes about with every check (`Expander.comes_about`).
-/

namespace DeclSynth

namespace Outcome

variable {α β : Type} {x : Outcome α}

/-- An expansion that does not stop at a name that is none. -/
def NeverPanics (x : Outcome α) : Prop := ∀ fault, x.result ≠ .error (.panic fault)

theorem neverPanics_pure {a : α} : NeverPanics (pure a) := nofun

theorem neverPanics_fail {e : ExpandError} {span : Span} :
    NeverPanics (fail e span : Outcome α) := by
  rintro fault ⟨⟩

theorem neverPanics_log {l : Level} {m : String} {fs : List (String × String)} :
    NeverPanics (log l m fs) := nofun

theorem neverPanics_warn {span : Span} {m : String} : NeverPanics (warn span m) := nofun

theorem neverPanics_failure {x : Except Failure α} : NeverPanics (liftM x : Outcome α) := by
  intro fault h
  obtain ⟨_, -, ⟨⟩⟩ := result_liftM_failure_error.1 h

theorem neverPanics_syntax {x : Except SyntaxError α} : NeverPanics (liftM x : Outcome α) := by
  intro fault h
  obtain ⟨_, -, ⟨⟩⟩ := result_liftM_syntax_error.1 h

/-- **A sequence never panics if neither of its parts does.** -/
theorem neverPanics_bind {f : α → Outcome β} (hx : x.NeverPanics) (hf : ∀ a, (f a).NeverPanics) :
    (x >>= f).NeverPanics := by
  intro fault h
  rcases result_bind_eq_error.1 h with h | ⟨a, -, h⟩
  · exact hx fault h
  · exact hf a fault h

end Outcome

open Outcome

theorem Freestanding.neverPanics_required {α : Type} {parse : Tokens → Except SyntaxError α}
    {what : String} {input : Tokens} : (required parse what input).NeverPanics := by
  unfold required
  split
  · exact neverPanics_fail
  · exact neverPanics_syntax

theorem Freestanding.neverPanics_stringify (input : Tokens) : (stringify input).NeverPanics :=
  neverPanics_bind neverPanics_required fun _ => neverPanics_pure

theorem Freestanding.neverPanics_warning (c : Config) (input : Tokens) :
    ((warning input).fresh c).NeverPanics := by
  rw [(carriesOut_warning c input).fresh_eq]
  exact neverPanics_bind neverPanics_required fun _ =>
    neverPanics_bind neverPanics_warn fun _ => neverPanics_pure

theorem Initializer.neverPanics_expand (args item : Tokens) : (expand args item).NeverPanics := by
  rw [expand, (carriesOut_inContext _ args item).fresh_eq]
  refine neverPanics_bind neverPanics_syntax fun l => ?_
  refine neverPanics_bind neverPanics_failure fun _ => ?_
  refine neverPanics_bind neverPanics_failure fun supertype => ?_
  refine neverPanics_bind neverPanics_syntax fun it => ?_
  split
  · refine neverPanics_bind ?_ fun _ => neverPanics_pure
    rw [synthesize, (carriesOut_synthesizeInContext _ _ supertype).fresh_eq]
    refine neverPanics_bind neverPanics_log fun _ => ?_
    split
    · exact neverPanics_bind neverPanics_warn fun _ => neverPanics_pure
    · exact neverPanics_pure
  · exact neverPanics_fail

theorem Equality.neverPanics_expand (item : Tokens) : (expand item).NeverPanics := by
  refine neverPanics_bind neverPanics_syntax fun it => ?_
  split
  · exact neverPanics_bind neverPanics_log fun _ => neverPanics_pure
  · exact neverPanics_fail

theorem CopyMethods.neverPanics_expand (item : Tokens) : (expand item).NeverPanics := by
  refine neverPanics_bind neverPanics_syntax fun it => ?_
  split
  · split
    · exact neverPanics_fail
    · exact neverPanics_bind neverPanics_log fun _ => neverPanics_pure
  · exact neverPanics_fail

theorem FieldAttribute.neverPanics_expand (args item : Tokens) :
    (expand args item).NeverPanics := by
  refine neverPanics_bind neverPanics_syntax fun l => ?_
  refine neverPanics_bind neverPanics_failure fun _ => ?_
  refine neverPanics_bind neverPanics_failure fun (text, span) => ?_
  dsimp only
  split
  · exact neverPanics_fail
  · refine neverPanics_bind neverPanics_syntax fun it => ?_
    split
    · exact neverPanics_bind neverPanics_log fun _ => neverPanics_pure
    · exact neverPanics_fail

theorem StoredAccess.neverPanics_expand (c : Config) (args item : Tokens) :
    (expand c args item).NeverPanics := by
  rw [expand, (carriesOut_inContext c args item).fresh_eq]
  refine neverPanics_bind neverPanics_syntax fun l => ?_
  refine neverPanics_bind neverPanics_failure fun _ => ?_
  refine neverPanics_bind neverPanics_failure fun runtime => ?_
  refine neverPanics_bind neverPanics_failure fun store => ?_
  refine neverPanics_bind neverPanics_syntax fun it => ?_
  split
  · refine neverPanics_bind neverPanics_failure fun access => ?_
    exact neverPanics_bind neverPanics_log fun _ => neverPanics_pure
  · exact neverPanics_fail

namespace Expander

/-- What an expander builds of an item comes about with every check, and is what it prints. -/
def Assembles (c : Config) (args : Tokens) : Expander → Item → Prop
  | .addInit, .struct s => s.fields.assemble = .ok s.fields.bound
  | .equatable, .struct s =>
    (⟨s⟩ : Equality).assemble = .ok ((⟨s⟩ : Equality).compared, (⟨s⟩ : Equality).params)
  | .copyable, .struct s => CopyMethods.assemble s = .ok (.of s)
  | .storedAccess, .struct s => ∀ store,
    (∀ slip, StoredAccess.assemble store s.fields ≠ .error (.inr slip)) ∧
    ∀ kept stored, StoredAccess.divideFields store s.fields = .ok (kept, stored) →
      ∃ kept', StoredAccess.assemble store s.fields =
        .ok (kept', stored.map fun f => (f, f.setter)) ∧ kept'.tokens = kept.tokens
  | .wrapStoredProperties, .struct s => ∀ a, FieldAttribute.given? args = some a →
    ∃ w, FieldAttribute.assemble a s = .ok w ∧ w.tokens = (FieldAttribute.wrap a s).tokens
  | .addAsync, .fn f =>
    (∀ h inImpl runtime, ∃ p, AsyncPeer.of f h inImpl runtime c.asyncSuffix = .ok p ∧
      AsyncPeer.assemble f h inImpl runtime c.asyncSuffix = .ok p) ∧
    ∀ word ∈ AsyncPeer.words, ∃ name,
      Ident.assemble word .mixedSite = .ok name ∧ name.tokens = hygienic word
  | _, _ => True

/-- The expanders that derive no name from the case of another one. -/
def plain : List Expander :=
  [addInit, addAsync, storedAccess, wrapStoredProperties, equatable, copyable, stringify, warning]

variable {c : Config} {kind : Expander} {args : Tokens}

theorem neverPanics_run (hs : Config.Continues c.asyncSuffix) (hplain : kind ∈ plain)
    (args item : Tokens) : (kind.run c args item).NeverPanics := by
  cases kind with
  | stringify => exact Freestanding.neverPanics_stringify args
  | warning => exact Freestanding.neverPanics_warning c args
  | addAsync => exact fun _ => Config.peer_ne_panic hs
  | wrapStoredProperties => exact FieldAttribute.neverPanics_expand args item
  | storedAccess => exact StoredAccess.neverPanics_expand c args item
  | equatable => exact Equality.neverPanics_expand item
  | copyable => exact CopyMethods.neverPanics_expand item
  | addInit =>
    change ((Initializer.inContext args item).fresh c).NeverPanics
    rw [Initializer.fresh_inContext]
    exact Initializer.neverPanics_expand args item
  | url | caseDetection | sealed => simp [plain] at hplain

theorem assembles (hs : Config.Continues c.asyncSuffix)
    (hfree : ∀ w ∈ Ident.reserved, ¬ c.asyncSuffix.toList <:+ w.toList)
    (hvalue : kind = .wrapStoredProperties →
      ∀ a, FieldAttribute.given? args = some a → a.RereadsValue) (it : Item) :
    kind.Assembles c args it := by
  -- only structs and functions have anything built of them
  cases it with
  | struct s =>
    cases kind with
    | addInit => exact s.fields.assemble_eq
    | equatable => exact Equality.assemble_eq ⟨s⟩
    | copyable => exact CopyMethods.assemble_eq s
    | storedAccess =>
      intro store
      exact ⟨StoredAccess.assemble_ne_slip, fun _ _ => StoredAccess.exists_assemble_of_divideFields⟩
    | wrapStoredProperties =>
      intro a ha
      exact FieldAttribute.exists_assemble_of_given? ha (hvalue rfl a ha) s
    | _ => trivial
  | fn f =>
    cases kind with
    | addAsync =>
      exact ⟨AsyncPeer.exists_assemble_of_suffix hs hfree f, AsyncPeer.assemble_words⟩
    | _ => trivial
  | _ => cases kind <;> trivial

/-- **Plain expanders never panic**, whatever their arguments and whatever is under them, if peers
have the suffix that they have by default: all that they build of an item comes about. An attribute
that has a value is taken to be read again from what it prints; any other is. -/
theorem comes_about (hsuffix : c.asyncSuffix = Config.default.asyncSuffix) (hplain : kind ∈ plain)
    (hvalue : kind = .wrapStoredProperties →
      ∀ a, FieldAttribute.given? args = some a → a.RereadsValue) :
    (∀ item, (kind.run c args item).NeverPanics) ∧ ∀ it, kind.Assembles c args it := by
  have hs : Config.Continues c.asyncSuffix := by
    rw [hsuffix]
    decide
  have hfree : ∀ w ∈ Ident.reserved, ¬ c.asyncSuffix.toList <:+ w.toList := by
    rw [hsuffix]
    decide
  exact ⟨neverPanics_run hs hplain args, assembles hs hfree hvalue⟩

/-- The argument `"doc = \"kept\""`. -/
def documentedArgs : Tokens := str "doc = \"kept\""

/-- `struct S { r#type: u8, _: PhantomData }` -/
def documentedSample : Tokens :=
  kw "struct" ++ kw "S" ++ brace (kw "r#type" ++ op ":" ++ kw "u8" ++ op "," ++
    kw "_" ++ op ":" ++ kw "PhantomData")

/-- An attribute with a value is read again, and comes about on the stored field alone. -/
theorem comes_about_documented :
    (Expander.wrapStoredProperties.run .default documentedArgs documentedSample).NeverPanics ∧
      ∃ a s w, FieldAttribute.given? documentedArgs = some a ∧
        Item.parse documentedSample = .ok (.struct s) ∧ FieldAttribute.assemble a s = .ok w ∧
        Tokens.render w.tokens =
          "struct S \x7b # [doc = \"kept\"] r#type : u8 , _ : PhantomData \x7d" := by
  have hreread : (FieldAttribute.given? documentedArgs).all
      (fun a => a.reread.toOption.any (·.tokens == a.tokens)) = true := by decide +kernel
  have hsample : (FieldAttribute.given? documentedArgs).any (fun a =>
      (structOf? documentedSample).any fun s =>
        Tokens.render (FieldAttribute.wrap a s).tokens ==
          "struct S \x7b # [doc = \"kept\"] r#type : u8 , _ : PhantomData \x7d") = true := by
    decide +kernel
  simp only [Option.any_eq_true, beq_iff_eq] at hsample
  obtain ⟨a, ha, s, hs, hrender⟩ := hsample
  have hparse := parse_eq_of_structOf? hs
  have hvalue (a : Attribute) (ha : FieldAttribute.given? documentedArgs = some a) :
      a.RereadsValue := by
    intro _ _ _
    rw [ha, Option.all_some, Option.any_eq_true] at hreread
    obtain ⟨b, hb, htokens⟩ := hreread
    exact ⟨b, eq_ok_of_toOption hb, beq_iff_eq.1 htokens⟩
  have hsuffix : Config.default.asyncSuffix = Config.default.asyncSuffix := rfl
  have hplain : Expander.wrapStoredProperties ∈ plain := by decide
  obtain ⟨hpanics, hassembles⟩ := comes_about hsuffix hplain fun _ => hvalue
  obtain ⟨w, hw, htokens⟩ := hassembles (.struct s) a ha
  exact ⟨hpanics documentedSample, a, s, w, ha, hparse, hw, by rw [htokens, hrender]⟩

end Expander

end DeclSynth
