import DeclSynth.Proofs.InContext.Expanders

/-!
# What a configuration is blamed for

Only the fragments of a configuration fail for the configuration's sake, and those
of a validated one do not (`Fragments`). So an expansion under a validated
configuration never fails for its sake, unless its arguments give another runtime,
which the default store may not fit (`blameless_run`).
-/

namespace DeclSynth

variable {α β : Type}

/-! ## Blame -/

/-- A check that fails does not fail for the configuration's sake. -/
def Blameless (x : Except Failure α) : Prop :=
  ∀ f, x = .error f → f.error.category ≠ .configuration

@[simp] theorem blameless_ok (a : α) : Blameless (.ok a : Except Failure α) := nofun

@[simp] theorem blameless_error {e : ExpandError} {span : Span} :
    Blameless (.error (e.at span) : Except Failure α) ↔ e.category ≠ .configuration := by
  simp [Blameless, ExpandError.at]

@[simp] theorem blameless_ofSyntax (e : SyntaxError) :
    Blameless (.error (.ofSyntax e) : Except Failure α) := by
  rintro _ ⟨⟩
  exact nofun

theorem blameless_bind {x : Except Failure α} {f : α → Except Failure β} (hx : Blameless x)
    (hf : ∀ a, Blameless (f a)) : Blameless (x >>= f) := by
  cases x with
  | ok a => exact hf a
  | error e => exact fun f hf => hx f (congrArg Except.error (Except.error.inj hf))

theorem blameless_mapM {f : α → Except Failure β} (hf : ∀ a, Blameless (f a)) (as : List α) :
    Blameless (as.mapM f) := by
  induction as with
  | nil => exact blameless_ok _
  | cons a as ih =>
    rw [List.mapM_cons]
    exact blameless_bind (hf a) fun b => blameless_bind ih fun bs => blameless_ok _

theorem blameless_foldlM {f : β → α → Except Failure β} (hf : ∀ b a, Blameless (f b a))
    (as : List α) (b : β) : Blameless (as.foldlM f b) := by
  induction as generalizing b with
  | nil => exact blameless_ok _
  | cons a as ih =>
    rw [List.foldlM_cons]
    exact blameless_bind (hf b a) fun b => ih b

namespace Outcome

variable {x : Outcome α} {f : α → Outcome β}

/-- An expansion that fails does not fail for the configuration's sake. -/
def Blameless (x : Outcome α) : Prop :=
  ∀ f, x.result = .error (.failure f) → f.error.category ≠ .configuration

@[simp] theorem blameless_pure {a : α} : Blameless (pure a) := nofun

@[simp] theorem blameless_liftM {x : Except Failure α} :
    Blameless (liftM x) ↔ DeclSynth.Blameless x := by
  simp [Blameless, DeclSynth.Blameless]

@[simp] theorem blameless_liftM_syntax {x : Except SyntaxError α} : Blameless (liftM x) := by
  intro f hf
  obtain ⟨e, -, he⟩ := result_liftM_syntax_error.1 hf
  cases he
  exact nofun

@[simp] theorem blameless_liftM_name {x : Except NameFault α} : Blameless (liftM x) := by
  intro f hf
  obtain ⟨fault, -, he⟩ := result_liftM_name_error.1 hf
  cases he

@[simp] theorem blameless_fail {e : ExpandError} {span : Span} :
    Blameless (fail e span : Outcome α) ↔ e.category ≠ .configuration := by
  simp [Blameless, ExpandError.at]

@[simp] theorem blameless_log {l : Level} {m : String} {fs : List (String × String)} :
    Blameless (log l m fs) := nofun

@[simp] theorem blameless_warn {span : Span} {m : String} : Blameless (warn span m) := nofun

/-- A sequence is blameless if both parts are, the second for what the first one yields. -/
theorem blameless_bind (hx : x.Blameless) (hf : ∀ a, x.result = .ok a → (f a).Blameless) :
    (x >>= f).Blameless := by
  intro failure h
  rcases result_bind_eq_error.1 h with h | ⟨a, ha, h⟩
  · exact hx failure h
  · exact hf a ha failure h

theorem blameless_forM {f : α → Outcome PUnit} (hf : ∀ a, (f a).Blameless) (as : List α) :
    (as.forM f).Blameless := by
  induction as with
  | nil => exact blameless_pure
  | cons a as ih =>
    rw [List.forM_eq_forM, List.forM_cons]
    exact blameless_bind (hf a) fun _ _ => ih

end Outcome

/-! ## Arguments -/

namespace ArgumentList

variable (l : ArgumentList)

theorem blameless_checkArguments (spec : ArgumentSpec) (first : Bool) (seen : List String)
    (as : List Argument) : Blameless (checkArguments spec first seen as) := by
  induction as generalizing first seen with
  | nil => exact blameless_ok _
  | cons a as ih =>
    have ha : Blameless (checkArgument spec first seen a) := by
      unfold checkArgument
      dsimp only
      repeat' split
      all_goals simp [ExpandError.category]
    unfold checkArguments
    split
    · exact ih false _
    · rename_i f hf
      rintro _ ⟨⟩
      exact ha f hf

@[simp] theorem blameless_validate (spec : ArgumentSpec) : Blameless (l.validate spec) := by
  unfold validate
  split
  · unfold checkPresence
    repeat' split
    all_goals simp [ExpandError.category]
  · rename_i f hf
    rintro _ ⟨⟩
    exact blameless_checkArguments spec true [] l.arguments f hf

@[simp] theorem blameless_path (label : String) : Blameless (l.path label) := by
  unfold path
  repeat' split
  all_goals simp [ExpandError.category]

@[simp] theorem blameless_ident (label : String) : Blameless (l.ident label) := by
  unfold ident
  split
  · rename_i f hf
    rintro _ ⟨⟩
    exact blameless_path l label f hf
  · exact blameless_ok _
  · split <;> simp [ExpandError.category]

@[simp] theorem blameless_expectString (value : Expr) (label : String) :
    Blameless (expectString value label) := by
  unfold expectString
  dsimp only
  repeat' split
  all_goals simp [ExpandError.category]

@[simp] theorem blameless_string (label : String) : Blameless (l.string label) := by
  unfold string
  split
  · exact blameless_ok _
  · rename_i value _
    intro f hf
    cases hvalue : expectString value label with
    | ok a => simp [hvalue, Except.map] at hf
    | error e =>
      simp only [hvalue, Except.map, Except.error.injEq] at hf
      exact blameless_expectString value label f (hf ▸ hvalue)

@[simp] theorem blameless_identList (label : String) : Blameless (l.identList label) := by
  unfold identList
  split
  · exact blameless_ok _
  · split
    · refine blameless_mapM (fun element => ?_) _
      unfold elementOf
      split <;> simp [ExpandError.category]
    · simp [ExpandError.category]

@[simp] theorem blameless_ofAttribute (a : Attribute) : Blameless (ofAttribute a) := by
  unfold ofAttribute
  repeat' split
  all_goals simp [ExpandError.category]

end ArgumentList

/-! ## Expanders that read no configuration -/

theorem Freestanding.blameless_required {parse : Tokens → Except SyntaxError α} {what : String}
    {input : Tokens} : (Freestanding.required parse what input).Blameless := by
  unfold Freestanding.required
  split
  · simp [ExpandError.category]
  · exact Outcome.blameless_liftM_syntax

theorem Freestanding.blameless_stringify (input : Tokens) : (stringify input).Blameless :=
  Outcome.blameless_bind blameless_required fun _ _ => Outcome.blameless_pure

theorem Freestanding.blameless_warning (c : Config) (input : Tokens) :
    ((warning input).fresh c).Blameless := by
  rw [(carriesOut_warning c input).fresh_eq]
  refine Outcome.blameless_bind blameless_required fun _ _ => ?_
  exact Outcome.blameless_bind Outcome.blameless_warn fun _ _ => Outcome.blameless_pure

theorem CasePredicates.blameless_expand (item : Tokens) : (expand item).Blameless := by
  refine Outcome.blameless_bind Outcome.blameless_liftM_syntax fun it _ => ?_
  split
  · refine Outcome.blameless_bind Outcome.blameless_log fun _ _ => ?_
    exact Outcome.blameless_bind Outcome.blameless_liftM_name fun _ _ => Outcome.blameless_pure
  · simp [ExpandError.category]

theorem CopyMethods.blameless_expand (item : Tokens) : (expand item).Blameless := by
  refine Outcome.blameless_bind Outcome.blameless_liftM_syntax fun it _ => ?_
  split
  · split
    · simp [ExpandError.category]
    · exact Outcome.blameless_bind Outcome.blameless_log fun _ _ => Outcome.blameless_pure
  · simp [ExpandError.category]

theorem Equality.blameless_expand (item : Tokens) : (expand item).Blameless := by
  refine Outcome.blameless_bind Outcome.blameless_liftM_syntax fun it _ => ?_
  split
  · exact Outcome.blameless_bind Outcome.blameless_log fun _ _ => Outcome.blameless_pure
  · simp [ExpandError.category]

theorem FieldAttribute.blameless_expand (args item : Tokens) : (expand args item).Blameless := by
  refine Outcome.blameless_bind Outcome.blameless_liftM_syntax fun l _ => ?_
  refine Outcome.blameless_bind (by simp) fun _ _ => ?_
  have htext : Blameless (attributeText l) := by
    unfold attributeText
    split <;> simp [ExpandError.category]
  refine Outcome.blameless_bind (Outcome.blameless_liftM.2 htext) fun text _ => ?_
  dsimp only
  split
  · simp [ExpandError.category]
  · refine Outcome.blameless_bind Outcome.blameless_liftM_syntax fun it _ => ?_
    split
    · exact Outcome.blameless_bind Outcome.blameless_log fun _ _ => Outcome.blameless_pure
    · simp [ExpandError.category]

theorem Initializer.blameless_expand (args item : Tokens) : (expand args item).Blameless := by
  rw [expand, (carriesOut_inContext _ args item).fresh_eq]
  refine Outcome.blameless_bind Outcome.blameless_liftM_syntax fun l _ => ?_
  refine Outcome.blameless_bind (by simp) fun _ _ => ?_
  refine Outcome.blameless_bind (by simp) fun supertype _ => ?_
  refine Outcome.blameless_bind Outcome.blameless_liftM_syntax fun it _ => ?_
  split
  · refine Outcome.blameless_bind ?_ fun _ _ => Outcome.blameless_pure
    rw [synthesize, (carriesOut_synthesizeInContext _ _ supertype).fresh_eq]
    refine Outcome.blameless_bind Outcome.blameless_log fun _ _ => ?_
    split
    · exact Outcome.blameless_bind Outcome.blameless_warn fun _ _ => Outcome.blameless_pure
    · exact Outcome.blameless_pure
  · simp [ExpandError.category]

/-! ## Validated configurations -/

/-- The fragments of a validated configuration. -/
structure Config.Fragments (c : Config) where
  runtime : Path
  classifier : Ident
  store : Expr
  discriminator : Ident
  peer : Ident
  runtime_eq : c.runtimePath = .ok runtime
  classifier_eq : c.classifier = .ok classifier
  store_eq : c.store runtime = .ok store
  discriminator_eq : c.discriminator = .ok discriminator
  peer_eq : c.samplePeer = .ok peer

/-- **A validated configuration has all its fragments.** -/
theorem Config.nonempty_fragments {c : Config} (h : c.validate = .ok ()) :
    Nonempty c.Fragments := by
  unfold Config.validate at h
  simp only [except_bind_eq_ok] at h
  obtain ⟨runtime, hruntime, classifier, hclassifier, store, hstore, discriminator, hdiscriminator,
    peer, hpeer, -⟩ := h
  exact ⟨⟨runtime, classifier, store, discriminator, peer, hruntime, hclassifier, hstore,
    hdiscriminator, hpeer⟩⟩

theorem Config.reportAt_eq_ok_iff {span : Span} {x : Except ExpandError α} {a : α} :
    reportAt span x = .ok a ↔ x = .ok a := by
  cases x <;> simp [reportAt]

/-- Without a `crate` argument, the runtime is the configured one. -/
theorem Config.Fragments.runtimeFor_eq {c : Config} (fs : c.Fragments) {l : ArgumentList}
    (hl : l.get? "crate" = none) : c.runtimeFor l = .ok fs.runtime := by
  unfold Config.runtimeFor ArgumentList.path ArgumentList.value?
  rw [hl]
  exact Config.reportAt_eq_ok_iff.2 fs.runtime_eq

/-! ## Expanders that read the configuration -/

variable {c : Config}

theorem UrlLiteral.blameless_inContext (fs : c.Fragments) (input : Tokens) :
    ((inContext input).fresh c).Blameless := by
  rw [(carriesOut_inContext c input).fresh_eq]
  refine Outcome.blameless_bind Freestanding.blameless_required fun (text, span) _ => ?_
  have hcheck : Blameless (check (Literal.content text) span) := by
    unfold check
    split <;> simp [ExpandError.category]
  refine Outcome.blameless_bind (Outcome.blameless_liftM.2 hcheck) fun url _ => ?_
  refine Outcome.blameless_bind Outcome.blameless_log fun _ _ => ?_
  refine Outcome.blameless_bind ?_ fun _ _ => Outcome.blameless_pure
  rw [Outcome.blameless_liftM, Config.reportAt_eq_ok_iff.2 fs.runtime_eq]
  exact blameless_ok _

theorem CompletionHandler.blameless_ofSignature (sig : Signature) :
    Blameless (ofSignature sig) := by
  have hunit : ∀ (e : ExpandError) (output : Option Ty), e.category ≠ .configuration →
      Blameless (checkUnit e output) := by
    intro e output he
    unfold checkUnit
    repeat' split
    all_goals simp [he]
  unfold ofSignature
  refine blameless_bind ?_ fun _ => blameless_bind (hunit _ _ (by decide)) fun _ => ?_
  · unfold checkSynchronous
    split <;> simp [ExpandError.category]
  · split
    · simp [ExpandError.category]
    · refine blameless_bind (hunit _ _ (by decide)) fun _ => blameless_bind ?_ fun _ =>
        blameless_bind ?_ fun _ => blameless_ok _
      · unfold checkArity
        split <;> simp [ExpandError.category]
      · unfold checkPayload
        repeat' split
        all_goals simp [ExpandError.category]

theorem AsyncPeer.blameless_expand (fs : c.Fragments) {args : Tokens}
    (hargs : ∀ l, ArgumentList.parse args = .ok l → l.get? "crate" = none) (item : Tokens) :
    (expand c args item).Blameless := by
  rw [expand, (carriesOut_inContext c args item).fresh_eq]
  refine Outcome.blameless_bind Outcome.blameless_liftM_syntax fun l hl => ?_
  have hcrate := hargs l (Outcome.result_liftM_syntax.1 hl)
  refine Outcome.blameless_bind (by simp) fun _ _ => ?_
  have hflag : Blameless (inImplFlag l) := by
    unfold inImplFlag
    dsimp only
    repeat' split
    all_goals simp [ExpandError.category]
  refine Outcome.blameless_bind (Outcome.blameless_liftM.2 hflag) fun _ _ => ?_
  refine Outcome.blameless_bind ?_ fun _ _ => ?_
  · rw [Outcome.blameless_liftM, fs.runtimeFor_eq hcrate]
    exact blameless_ok _
  · refine Outcome.blameless_bind Outcome.blameless_liftM_syntax fun it _ => ?_
    split
    · refine Outcome.blameless_bind
        (Outcome.blameless_liftM.2 (CompletionHandler.blameless_ofSignature _)) fun _ _ => ?_
      refine Outcome.blameless_bind Outcome.blameless_liftM_name fun _ _ => ?_
      exact Outcome.blameless_bind Outcome.blameless_log fun _ _ => Outcome.blameless_pure
    · simp [ExpandError.category]

theorem StoredField.blameless_ofField? (defaultStore : Expr) (field : Field) :
    Blameless (ofField? defaultStore field) := by
  unfold ofField?
  split
  · refine blameless_bind (by simp) fun l => blameless_bind ?_ fun _ => blameless_ok _
    unfold ofArguments
    refine blameless_bind (by simp) fun _ => ?_
    split
    · simp [ExpandError.category]
    · split
      · simp [ExpandError.category]
      · refine blameless_bind ?_ fun _ => blameless_ok _
        unfold keyOf
        split
        · rename_i f hf
          rintro _ ⟨⟩
          exact l.blameless_string "key" f hf
        · exact blameless_ok _
        · exact blameless_ok _
  · exact blameless_ok _

theorem StoredAccess.blameless_of (s : StructItem) (runtime : Path) (defaultStore : Expr) :
    Blameless (StoredAccess.of s runtime defaultStore) := by
  refine blameless_bind ?_ fun (fields, stored) => ?_
  · unfold divideFields
    split
    · exact blameless_bind (blameless_mapM (StoredField.blameless_ofField? defaultStore) _)
        fun _ => blameless_ok _
    · split <;> simp [ExpandError.category]
    · exact blameless_ok _
  · dsimp only
    split
    · simp [ExpandError.category]
    · exact blameless_ok _

theorem StoredAccess.blameless_expand (fs : c.Fragments) {args : Tokens}
    (hargs : ∀ l, ArgumentList.parse args = .ok l → l.get? "crate" = none) (item : Tokens) :
    (expand c args item).Blameless := by
  rw [expand, (carriesOut_inContext c args item).fresh_eq]
  refine Outcome.blameless_bind Outcome.blameless_liftM_syntax fun l hl => ?_
  have hcrate := hargs l (Outcome.result_liftM_syntax.1 hl)
  refine Outcome.blameless_bind (by simp) fun _ _ => ?_
  rw [fs.runtimeFor_eq hcrate]
  refine Outcome.blameless_bind (by simp) fun runtime hruntime => ?_
  -- the default store was validated under the configured runtime, which is the one at hand
  obtain rfl := Except.ok.inj (Outcome.result_liftM_failure.1 hruntime)
  rw [Config.reportAt_eq_ok_iff.2 fs.store_eq]
  refine Outcome.blameless_bind (by simp) fun store _ => ?_
  refine Outcome.blameless_bind Outcome.blameless_liftM_syntax fun it _ => ?_
  split
  · refine Outcome.blameless_bind (Outcome.blameless_liftM.2 (blameless_of _ _ _)) fun _ _ => ?_
    exact Outcome.blameless_bind Outcome.blameless_log fun _ _ => Outcome.blameless_pure
  · simp [ExpandError.category]

namespace Sealed

theorem blameless_declaredRoles (l : ArgumentList) : Blameless (declaredRoles l) := by
  have hdistinct : ∀ seen roles, Blameless (checkDistinct seen roles) := by
    intro seen roles
    induction roles generalizing seen with
    | nil => exact blameless_ok _
    | cons role rest ih =>
      unfold checkDistinct
      split
      · simp [ExpandError.category]
      · exact ih _
  exact blameless_bind (by simp) fun roles =>
    blameless_bind (hdistinct [] roles) fun _ => blameless_ok _

theorem blameless_baseOf (l : ArgumentList) (name : Ident) : Blameless (baseOf l name) := by
  unfold baseOf
  split
  · rename_i f hf
    rintro _ ⟨⟩
    exact l.blameless_ident "base" f hf
  · exact blameless_ok _
  · split <;> simp [ExpandError.category]

theorem blameless_rolesOf (declared : List Ident) (attributes : List Attribute) :
    Blameless (Variant.rolesOf declared attributes) := by
  refine blameless_foldlM (fun own a => blameless_bind ?_ fun listed => ?_) _ _
  · unfold Variant.listedRoles
    split
    · exact blameless_ok _
    · split <;> simp
    · simp [ExpandError.category]
  · refine blameless_foldlM (fun own role => ?_) _ _
    unfold Variant.addRole
    repeat' split
    all_goals simp [ExpandError.category]

theorem blameless_collect (declared : List Ident) (items : List Item) :
    (Variant.collect declared items).Blameless := by
  induction items with
  | nil => exact Outcome.blameless_pure
  | cons item rest ih =>
    refine Outcome.blameless_bind ?_ fun _ _ =>
      Outcome.blameless_bind ih fun _ _ => Outcome.blameless_pure
    unfold Variant.ofItem?
    dsimp only
    split
    · exact Outcome.blameless_pure
    · refine Outcome.blameless_bind (Outcome.blameless_liftM.2 (blameless_rolesOf _ _))
        fun _ _ => ?_
      split
      · refine Outcome.blameless_bind ?_ fun _ _ => Outcome.blameless_pure
        unfold Variant.ofStruct
        split
        · simp [ExpandError.category]
        · exact Outcome.blameless_bind Outcome.blameless_log fun _ _ => Outcome.blameless_pure
      · simp [ExpandError.category]

theorem blameless_addRoles (suffix : String) (base : Ident) (variants : List Variant)
    (buckets : List Bucket) (roles : List Ident) :
    (addRoles suffix base variants buckets roles).Blameless := by
  induction roles generalizing buckets with
  | nil =>
    rw [addRoles_nil]
    exact Outcome.blameless_pure
  | cons role rest ih =>
    rw [addRoles_cons]
    split
    · exact Outcome.blameless_bind Outcome.blameless_warn fun _ _ => ih _
    · refine Outcome.blameless_bind Outcome.blameless_liftM_name fun bucket _ => ?_
      refine Outcome.blameless_bind (Outcome.blameless_liftM.2 ?_) fun _ _ => ih _
      unfold Bucket.checkAgainst
      split <;> simp [ExpandError.category]

theorem blameless_build (fs : c.Fragments) (base : Ident) (roles : List Ident)
    (variants : List Variant) (items : List Item) :
    (Hierarchy.build c base roles variants items).Blameless := by
  rw [Hierarchy.build, (Hierarchy.carriesOut_buildInContext _ _ _ _ _).fresh_eq]
  rw [Config.reportAt_eq_ok_iff.2 fs.discriminator_eq, Config.reportAt_eq_ok_iff.2 fs.classifier_eq]
  refine Outcome.blameless_bind (by simp) fun _ _ => Outcome.blameless_bind (by simp) fun _ _ => ?_
  refine Outcome.blameless_bind (blameless_addRoles _ _ _ _ _) fun buckets _ => ?_
  refine Outcome.blameless_bind (Outcome.blameless_liftM.2 ?_) fun _ _ =>
    Outcome.blameless_bind (Outcome.blameless_liftM.2 ?_) fun _ _ =>
      Outcome.blameless_bind ?_ fun _ _ => Outcome.blameless_pure
  · unfold Hierarchy.checkTypes
    split
    · simp [Hierarchy.clash, ExpandError.category]
    · split <;> simp [Hierarchy.clash, ExpandError.category]
  · unfold Hierarchy.checkMethods
    dsimp only
    split <;> simp [Hierarchy.clash, ExpandError.category]
  · exact Outcome.blameless_forM (fun _ => Outcome.blameless_warn) _

theorem blameless_expand (fs : c.Fragments) (args item : Tokens) :
    (expand c args item).Blameless := by
  rw [expand, (carriesOut_inContext c args item).fresh_eq]
  refine Outcome.blameless_bind Outcome.blameless_liftM_syntax fun l _ => ?_
  refine Outcome.blameless_bind (by simp) fun _ _ => ?_
  refine Outcome.blameless_bind (Outcome.blameless_liftM.2 (blameless_declaredRoles l))
    fun roles _ => ?_
  refine Outcome.blameless_bind Outcome.blameless_liftM_syntax fun it _ => ?_
  split
  · refine Outcome.blameless_bind (Outcome.blameless_liftM.2 (blameless_baseOf l _))
      fun base _ => ?_
    split
    · simp [ExpandError.category]
    · refine Outcome.blameless_bind ?_ fun _ _ => Outcome.blameless_pure
      rw [sealItems, (carriesOut_sealInContext _ _ _ _ _).fresh_eq]
      refine Outcome.blameless_bind (blameless_collect _ _) fun variants _ => ?_
      dsimp only
      split
      · exact Outcome.blameless_bind Outcome.blameless_log fun _ _ => Outcome.blameless_pure
      · refine Outcome.blameless_bind (blameless_build fs _ _ _ _) fun _ _ => ?_
        exact Outcome.blameless_bind Outcome.blameless_log fun _ _ => Outcome.blameless_pure
  · simp [ExpandError.category]

end Sealed

/-- **An expansion under a validated configuration does not fail for its sake**, whatever is
expanded, as long as the arguments name no other runtime. -/
theorem Expander.blameless_run (fs : c.Fragments) (kind : Expander) {args : Tokens}
    (hargs : ∀ l, ArgumentList.parse args = .ok l → l.get? "crate" = none) (item : Tokens) :
    (kind.run c args item).Blameless := by
  cases kind with
  | stringify => exact Freestanding.blameless_stringify args
  | warning => exact Freestanding.blameless_warning c args
  | url => exact UrlLiteral.blameless_inContext fs args
  | addAsync => exact AsyncPeer.blameless_expand fs hargs item
  | caseDetection => exact CasePredicates.blameless_expand item
  | wrapStoredProperties => exact FieldAttribute.blameless_expand args item
  | storedAccess => exact StoredAccess.blameless_expand fs hargs item
  | equatable => exact Equality.blameless_expand item
  | copyable => exact CopyMethods.blameless_expand item
  | sealed => exact Sealed.blameless_expand fs args item
  | addInit =>
    change ((Initializer.inContext args item).fresh c).Blameless
    rw [Initializer.fresh_inContext]
    exact Initializer.blameless_expand args item

end DeclSynth
