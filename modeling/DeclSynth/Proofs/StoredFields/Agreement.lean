import DeclSynth.Proofs.InContext.Expanders
import DeclSynth.Proofs.StoredFields.Wrapped
import DeclSynth.Proofs.Syntax.Fields

/-!
# One list of stored fields

All that is generated for a struct with named fields goes by the same list of them
(`agreement_storedFields`): the fields that the initializer takes, those that are
copied, replaced and compared, those that gain an attribute, and those that decide
whether a sealed variant refers to a value. A struct that has gained the attributes gets
the same code again, and so does what it prints, as long as that is read back as a
struct like it (`ReadsAs`).
-/

namespace DeclSynth

variable {item args : Tokens} {s t w : StructItem} {a : Attribute}

/-! ## What expanders come to -/

/-- The supertype that the arguments of an initializer give. -/
def Initializer.supertype (args : Tokens) : Outcome (Option Path) := do
  let args ← ArgumentList.parse args
  args.validate spec
  args.path "extends"

theorem Initializer.result_synthesize (supertype : Option Path) :
    (synthesize s supertype).result = .ok (.of s supertype) := by
  rw [synthesize, (carriesOut_synthesizeInContext _ s supertype).fresh_eq]
  simp only [Outcome.result_bind]
  split <;> rfl

/-- A struct gets its initializer behind it whenever the arguments are right. -/
theorem Initializer.result_expand (h : Item.parse item = .ok (.struct s)) :
    (expand args item).result =
      (fun extended => s.tokens ++ (of s extended).tokens) <$> (supertype args).result := by
  rw [expand, (carriesOut_inContext _ args item).fresh_eq]
  unfold supertype
  -- both look at the arguments first, and stop there alike
  simp only [h, Outcome.result_bind, map_bind]
  refine bind_congr fun list => bind_congr fun _ => ?_
  rw [map_eq_pure_bind]
  refine bind_congr fun extended => ?_
  change (synthesize s extended >>= fun i => pure (s.tokens ++ i.tokens)).result = _
  rw [Outcome.result_bind, result_synthesize]
  rfl

/-- A struct with named fields gets its copy methods. -/
theorem CopyMethods.result_expand (h : Item.parse item = .ok (.struct s))
    (hshape : s.fields.shape = .named) : (expand item).result = .ok (of s).tokens := by
  unfold expand
  rw [h, Outcome.result_bind]
  change (ite _ _ _ : Outcome Tokens).result = _
  rw [if_neg (not_not_intro hshape)]
  rfl

/-- A struct gets its equality. -/
theorem Equality.result_expand (h : Item.parse item = .ok (.struct s)) :
    (expand item).result = .ok (tokens ⟨s⟩) := by
  unfold expand
  rw [h]
  rfl

/-- The attribute that the arguments give. -/
def FieldAttribute.given (args : Tokens) : Outcome Attribute := do
  let args ← ArgumentList.parse args
  args.validate spec
  let (text, span) ← attributeText args
  match ofLiteral? text with
  | none =>
    .fail (.invalidArgument "attribute"
      "the body of an attribute, e.g. `\"deprecated(note = \\\"..\\\")\"`") span
  | some a => return a

/-- A struct gains an attribute whenever the arguments give one. -/
theorem FieldAttribute.result_expand (h : Item.parse item = .ok (.struct s)) :
    (expand args item).result = (fun a => (wrap a s).tokens) <$> (given args).result := by
  unfold expand given
  simp only [h, Outcome.result_bind, map_bind]
  refine bind_congr fun list => bind_congr fun _ => bind_congr fun text => ?_
  cases ofLiteral? text.1 <;> rfl

/-- A marked struct without parameters is a variant. -/
theorem Sealed.Variant.result_ofStruct (h : s.generics.params = []) (roles : List Ident) :
    (ofStruct s roles).result = .ok ⟨s.name, s.vis, (s.facts none).hasStored, roles⟩ := by
  unfold ofStruct
  rw [h]
  rfl

/-- A struct holds state when it has a stored field. -/
theorem StructItem.hasStored_eq (s : StructItem) :
    (s.facts none).hasStored = !s.storedFields.isEmpty := by
  unfold StructItem.facts StructItem.storedFields
  rw [Bool.eq_iff_iff]
  simp

/-! ## Agreement -/

/-- What a struct prints is read back, as a struct that is like it. -/
structure ReadsAs (w t : StructItem) : Prop where
  parse_eq : Item.parse w.tokens = .ok (.struct t)
  alike : Alike w t

/-- The same implementations are generated for two items, which are read as two structs. -/
structure SameImplementations (item item' : Tokens) (s s' : StructItem) : Prop where
  initializer : ∀ args, ∃ implementation : Option Path → Tokens,
    (Initializer.expand args item).result =
        (fun extended => s.tokens ++ implementation extended) <$>
          (Initializer.supertype args).result ∧
      (Initializer.expand args item').result =
        (fun extended => s'.tokens ++ implementation extended) <$>
          (Initializer.supertype args).result
  copyMethods : (CopyMethods.expand item').result = (CopyMethods.expand item).result
  equality : (Equality.expand item').result = (Equality.expand item).result

/-- An item is read as a struct, and another struct has an attribute more for some of its fields
and is the same else. -/
structure Gains (a : Attribute) (item : Tokens) (s w : StructItem) (fields : List Field) :
    Prop where
  gaining : s.gaining w = fields
  last : ∀ f ∈ w.storedFields, f.attributes.getLast? = some a
  withoutLast : w.withoutLast = s
  initializer : ∀ supertype,
    (Initializer.of w supertype).tokens = (Initializer.of s supertype).tokens
  copyMethods : (CopyMethods.of w).tokens = (CopyMethods.of s).tokens
  equality : Equality.tokens ⟨w⟩ = Equality.tokens ⟨s⟩
  /-- It is expanded alike when it is read again. -/
  again : ∀ t, ReadsAs w t → SameImplementations item w.tokens s t

/-- What is generated for an item, which is read as a struct, goes by a list of its fields. -/
structure Agreement (item : Tokens) (s : StructItem) (fields : List Field) : Prop where
  /-- The initializer takes the fields with their types. -/
  initializer : ∀ args, ∃ implementation : Option Path → Tokens,
    (Initializer.expand args item).result =
        (fun extended => s.tokens ++ implementation extended) <$>
          (Initializer.supertype args).result ∧
      ∀ extended, ∃ body, functionsOf (implementation extended) =
        some [⟨"new", commas (fields.map Field.declaredTokens), body⟩]
  /-- The fields are copied, and replaced one by one. -/
  copyMethods : ∃ implementation body,
    (CopyMethods.expand item).result = .ok implementation ∧
      functionsOf implementation = some
        (⟨"copy", op "&" ++ kw "self" ++ op "," ++
            commas (fields.map Field.optionalTokens), body⟩ ::
          fields.map Field.wither)
  /-- The fields are compared. -/
  equality : ∃ implementation params,
    (Equality.expand item).result = .ok implementation ∧
      functionsOf implementation = some [⟨"eq", params,
        if fields.isEmpty then kw "true"
        else separated (op "&&") false (fields.map Field.comparisonTokens)⟩]
  /-- The fields gain an attribute. -/
  wrapping : ∀ args, (FieldAttribute.expand args item).result =
    (fun a => (FieldAttribute.wrap a s).tokens) <$> (FieldAttribute.given args).result
  gains : ∀ a, Gains a item s (FieldAttribute.wrap a s) fields
  /-- A variant refers to a value if there are fields. -/
  variant : s.generics.params = [] → ∀ roles, ∃ v,
    (Sealed.Variant.ofStruct s roles).result = .ok v ∧ ∀ last,
      Sealed.Code.readCase (Sealed.Bucket.caseTokens v) last =
        some ⟨s.name.text, if fields.isEmpty then .nothing else .borrowed s.name.text⟩

/-- **Alike structs are expanded alike.** -/
theorem Alike.sameImplementations {item' : Tokens} (h : Alike s t)
    (hs : Item.parse item = .ok (.struct s)) (ht : Item.parse item' = .ok (.struct t))
    (hshape : s.fields.shape = .named) : SameImplementations item item' s t where
  initializer args := by
    refine ⟨fun extended => (Initializer.of s extended).tokens, Initializer.result_expand hs, ?_⟩
    rw [Initializer.result_expand ht]
    simp only [h.initializer_eq]
  copyMethods := by
    rw [CopyMethods.result_expand hs hshape,
      CopyMethods.result_expand ht (h.shape.trans hshape), h.copyMethods_eq]
  equality := by rw [Equality.result_expand hs, Equality.result_expand ht, h.equality_eq]

/-- **What gains an attribute are the stored fields, and no code notices.** -/
theorem gains_wrap (h : Item.parse item = .ok (.struct s)) (hshape : s.fields.shape = .named) :
    Gains a item s (FieldAttribute.wrap a s) s.storedFields where
  gaining := FieldAttribute.gaining_wrap
  last f hf := by
    rw [FieldAttribute.storedFields_wrap, List.mem_map] at hf
    obtain ⟨f, -, rfl⟩ := hf
    exact List.getLast?_concat
  withoutLast := FieldAttribute.withoutLast_wrap
  initializer := alike_wrap.initializer_eq
  copyMethods := alike_wrap.copyMethods_eq
  equality := alike_wrap.equality_eq
  again _ ht := (alike_wrap.trans ht.alike).sameImplementations h ht.parse_eq hshape

theorem hasNamedFields_of_parse (h : Item.parse item = .ok (.struct s))
    (hshape : s.fields.shape = .named) : s.HasNamedFields :=
  ⟨hshape, named_of_parse h hshape⟩

/-- **One list of stored fields.** All that is generated for a struct with named fields goes by its
stored fields, in declaration order. -/
theorem agreement_storedFields (h : Item.parse item = .ok (.struct s))
    (hshape : s.fields.shape = .named) : Agreement item s s.storedFields where
  initializer args :=
    ⟨fun extended => (Initializer.of s extended).tokens, Initializer.result_expand h,
      fun extended => ⟨_, functionsOf_initializer (hasNamedFields_of_parse h hshape) extended⟩⟩
  copyMethods := by
    obtain ⟨body, hbody⟩ := functionsOf_copyMethods (hasNamedFields_of_parse h hshape)
    exact ⟨_, body, CopyMethods.result_expand h hshape, hbody⟩
  equality := by
    obtain ⟨params, hparams⟩ := functionsOf_equality (hasNamedFields_of_parse h hshape)
    exact ⟨_, params, Equality.result_expand h, hparams⟩
  wrapping _ := FieldAttribute.result_expand h
  gains _ := gains_wrap h hshape
  variant hparams roles := by
    refine ⟨_, Sealed.Variant.result_ofStruct hparams roles, fun last => ?_⟩
    rw [s.hasStored_eq]
    cases s.storedFields.isEmpty <;> rfl

/-- `struct Pair { first: u8, mark: PhantomData<u8>, second: String }` -/
def mixedSample : Tokens :=
  kw "struct" ++ kw "Pair" ++ brace (
    kw "first" ++ op ":" ++ kw "u8" ++ op "," ++
    kw "mark" ++ op ":" ++ kw "PhantomData" ++ op "<" ++ kw "u8" ++ op ">" ++ op "," ++
    kw "second" ++ op ":" ++ kw "String")

/-- The struct that tokens are. -/
def structOf? (ts : Tokens) : Option StructItem :=
  match Item.parse ts with
  | .ok (.struct s) => some s
  | _ => none

theorem parse_eq_of_structOf? {ts : Tokens} (h : structOf? ts = some s) :
    Item.parse ts = .ok (.struct s) := by
  unfold structOf? at h
  split at h
  · rename_i hparse
    rw [hparse, Option.some.inj h]
  · cases h

/-- All that is generated for a struct with a marker between two stored fields goes by these two,
and what it is printed as with an attribute for both is read as a struct like it. -/
theorem agreement_storedFields_mixed : ∃ s,
    Item.parse mixedSample = .ok (.struct s) ∧ s.fields.shape = .named ∧
      s.storedFields.map (·.name.map Ident.text) = [some "first", some "second"] ∧
      Agreement mixedSample s s.storedFields ∧
      ∃ a t, (FieldAttribute.given (lit "\"deprecated\"")).result = .ok a ∧
        ReadsAs (FieldAttribute.wrap a s) t ∧
        SameImplementations mixedSample (FieldAttribute.wrap a s).tokens s t := by
  have hsample : (structOf? mixedSample).any (fun s =>
      s.fields.shape == .named &&
      s.storedFields.map (·.name.map Ident.text) == [some "first", some "second"] &&
      (FieldAttribute.given (lit "\"deprecated\"")).result.toOption.any fun a =>
        (structOf? (FieldAttribute.wrap a s).tokens).any fun t =>
          decide (Alike (FieldAttribute.wrap a s) t)) = true := by
    decide +kernel
  simp only [Option.any_eq_true, Bool.and_eq_true, decide_eq_true_eq, beq_iff_eq] at hsample
  obtain ⟨s, hs, ⟨hshape, hstored⟩, a, ha, t, ht, halike⟩ := hsample
  have hparse := parse_eq_of_structOf? hs
  have hgiven : (FieldAttribute.given (lit "\"deprecated\"")).result = .ok a := by
    cases hresult : (FieldAttribute.given (lit "\"deprecated\"")).result with
    | ok _ => rw [hresult] at ha; rw [Option.some.inj ha]
    | error _ => rw [hresult] at ha; cases ha
  have hreads : ReadsAs (FieldAttribute.wrap a s) t := ⟨parse_eq_of_structOf? ht, halike⟩
  have hall := agreement_storedFields hparse hshape
  exact ⟨s, hparse, hshape, hstored, hall, a, t, hgiven, hreads, (hall.gains a).again t hreads⟩

end DeclSynth
