import DeclSynth.Proofs.StoredFields.Agreement
import DeclSynth.Proofs.StoredFields.Literal

/-!
# What initializers construct

The body of `new` sets every field of the struct once, in declaration order: a stored one
to its own parameter, and any other to the marker (`Initializer.literal`). So it yields
the record of the values that the parameters are bound to, for a struct of any layout,
unless two of its fields have one name (`expand_constructs`).
-/

namespace DeclSynth

open Sealed.Code (isComma Open)

namespace Initializer

variable {α : Type} {args item : Tokens} {s : StructItem} {extended : Option Path}
variable {fs : Fields} {f : BoundField}

/-! ## The body of `new` -/

/-- What a field is set to. -/
def source (f : BoundField) : Source :=
  if f.field.isStored then .variable f.binding.text else .marker

/-- The value that the body of `new` is. -/
def literal (fs : Fields) : Literal :=
  match fs.shape with
  | .named => .named (fs.bound.map fun f => (f.binding.text, source f)) false
  | .unnamed => .positional (fs.bound.map source)
  | .unit => .unit

/-- What a field is set to is read. -/
theorem read_valueTokens (f : BoundField) :
    Source.read (valueTokens (valueOf f)) = some (source f) := by
  unfold valueOf source
  cases f.field.isStored <;> rfl

/-- A named field that is set is read. -/
theorem readInit_namedTokens (hmember : f.member = .named f.binding) :
    readInit (namedTokens (f.member, valueOf f)) = some (f.binding.text, source f) := by
  unfold valueOf source
  rw [hmember]
  cases f.field.isStored <;> rfl

/-- There is no comma in what a field is set to. -/
theorem open_valueTokens (f : BoundField) :
    Open isComma (valueTokens (valueOf f)) ∧ valueTokens (valueOf f) ≠ [] := by
  unfold valueOf
  cases f.field.isStored <;>
    simp [valueTokens, markerTokens, absolute, op, joined, kw, Ident.tokens, isComma]

theorem open_namedTokens (hmember : f.member = .named f.binding) :
    Open isComma (namedTokens (f.member, valueOf f)) ∧ namedTokens (f.member, valueOf f) ≠ [] := by
  unfold valueOf
  rw [hmember]
  cases f.field.isStored <;>
    simp [namedTokens, FieldMember.tokens, markerTokens, absolute, op, joined, kw, Ident.tokens,
      isComma]

/-- **The body of `new` is read.** -/
theorem read_construct (hfs : s.fields.LaidOut) (extended : Option Path) :
    Literal.read (of s extended).construct = some (literal s.fields) := by
  unfold construct literal
  change Literal.read (kw "Self" ++ match s.fields.shape with
    | .named => brace (commas ((of s extended).assignments.map namedTokens))
    | .unnamed => paren (commas ((of s extended).assignments.map fun x => valueTokens x.2))
    | .unit => []) = _
  have hassignments : (of s extended).assignments =
      s.fields.bound.map fun f => (f.member, valueOf f) := rfl
  rw [hassignments, List.map_map, List.map_map]
  cases hshape : s.fields.shape with
  | named =>
    have hmember : ∀ f ∈ s.fields.bound, f.member = .named f.binding := fun f hf =>
      Fields.member_of_named hfs.named hshape hf
    refine Literal.read_named (cut_commas fun p hp => ?_) fun f hf =>
      readInit_namedTokens (hmember f hf)
    obtain ⟨f, hf, rfl⟩ := List.mem_map.1 hp
    exact open_namedTokens (hmember f hf)
  | unnamed =>
    refine Literal.read_positional (cut_commas fun p hp => ?_) fun f _ => read_valueTokens f
    obtain ⟨f, -, rfl⟩ := List.mem_map.1 hp
    exact open_valueTokens f
  | unit => rfl

/-! ## The value of the body -/

/-- The parameters of `new`, each bound to the value of its field. -/
def given (fs : Fields) (values : FieldKey → α) : List (String × Binding α) :=
  fs.stored.map fun f => (f.binding.text, .given (values f.key))

/-- The fields are set in declaration order, each once. -/
theorem keys_literal (hfs : fs.LaidOut) : (literal fs).keys = fs.keys := by
  unfold literal
  cases hshape : fs.shape with
  | named =>
    dsimp only [Literal.keys]
    rw [List.map_map, Fields.keys]
    exact List.map_congr_left fun f hf => (Fields.key_of_named hfs.named hshape hf).symm
  | unnamed =>
    dsimp only [Literal.keys]
    rw [List.length_map, Fields.keys_of_unnamed hfs.unnamed hshape]
  | unit =>
    rw [Fields.keys, Fields.bound_of_unit hshape]
    rfl

theorem sources_literal (fs : Fields) : (literal fs).sources = fs.bound.map source := by
  unfold literal
  cases hshape : fs.shape with
  | named =>
    dsimp only [Literal.sources]
    rw [List.map_map]
    rfl
  | unnamed => rfl
  | unit =>
    rw [Fields.bound_of_unit hshape]
    rfl

theorem isWhole_literal (fs : Fields) : (literal fs).isWhole = true := by
  unfold literal
  cases fs.shape <;> rfl

/-- **Each parameter is used once**, in their order. -/
theorem parameters_literal (fs : Fields) :
    (literal fs).parameters = fs.stored.map (·.binding.text) := by
  rw [Literal.parameters, sources_literal, Fields.stored]
  induction fs.bound with
  | nil => rfl
  | cons f rest ih =>
    rw [List.map_cons]
    cases hstored : f.field.isStored with
    | true =>
      have hsource : (source f).parameter? = some f.binding.text := by
        rw [source, hstored]
        rfl
      rw [List.filterMap_cons_some hsource,
        List.filter_cons_of_pos (p := fun f : BoundField => f.field.isStored) hstored,
        List.map_cons, ih]
    | false =>
      have hsource : (source f).parameter? = none := by
        rw [source, hstored]
        rfl
      have hnot : ¬ f.field.isStored = true := Bool.eq_false_iff.1 hstored
      rw [List.filterMap_cons_none hsource,
        List.filter_cons_of_neg (p := fun f : BoundField => f.field.isStored) hnot, ih]

/-- A field is set to what its record holds. -/
theorem cell?_source {sc : Scope α} {values : FieldKey → α} (hparams : sc.params = given fs values)
    (hdistinct : (fs.stored.map (·.binding.text)).Nodup) (hf : f ∈ fs.bound) :
    (source f).cell? sc = some (f.cell values) := by
  unfold source BoundField.cell
  cases hstored : f.field.isStored with
  | false => rfl
  | true =>
    have hmem : f ∈ fs.stored := Fields.mem_stored.2 ⟨hf, hstored⟩
    have hlookup : sc.params.lookup f.binding.text = some (.given (values f.key)) := by
      rw [hparams, given]
      exact lookup_map_key hdistinct hmem fun f => Binding.given (values f.key)
    change (Source.variable f.binding.text).cell? sc = some (.held (values f.key))
    rw [Source.cell?, hlookup]

/-- **The body of `new` yields the record of the values it is given**, if no two fields have one
name. -/
theorem evaluate_literal (hfs : fs.LaidOut) {sc : Scope α} {values : FieldKey → α}
    (hparams : sc.params = given fs values) :
    (literal fs).evaluate sc = if fs.keys.Nodup then some (fs.record values) else none := by
  by_cases hdistinct : fs.keys.Nodup
  · rw [if_pos hdistinct]
    have hstored := Fields.nodup_storedParameters hfs hdistinct
    have hnames : (sc.params.map (·.1)).Nodup := by
      rw [hparams, given, List.map_map]
      exact hstored
    have hcells : ∀ f ∈ fs.bound, (source f).cell? sc = some (f.cell values) := fun f hf =>
      cell?_source hparams hstored hf
    unfold literal
    cases hshape : fs.shape with
    | named =>
      have hkeys : ∀ f ∈ fs.bound, f.key = .name f.binding.text := fun f hf =>
        Fields.key_of_named hfs.named hshape hf
      rw [← Fields.setAll_eq_record hdistinct hkeys (.refl _)]
      exact Literal.evaluate_named hnames (Fields.nodup_parameters hfs hdistinct) hcells rfl
    | unnamed =>
      rw [← Fields.ofCells_eq_record (Fields.keys_of_unnamed hfs.unnamed hshape)]
      exact Literal.evaluate_positional hnames hcells
    | unit =>
      have hrecord : fs.record values = .empty := by
        funext key
        rw [Fields.record, Fields.bound_of_unit hshape]
        rfl
      rw [hrecord]
      exact if_pos ⟨hnames, List.nodup_nil⟩
  · -- two fields of one name would be set twice
    rw [if_neg hdistinct]
    have hkeys : ¬ (literal fs).keys.Nodup := by rwa [keys_literal hfs]
    exact if_neg fun h => hkeys h.2

/-! ## What is generated -/

/-- What `new` is for a struct. -/
structure Constructs (s : StructItem) (fn : FnForm) : Prop where
  name : fn.name = "new"
  /-- There is a parameter for each stored field, of the field's type. -/
  params : fn.params = commas (s.fields.stored.map paramTokens)
  stored : s.fields.stored.map (·.field) = s.storedFields
  /-- The body sets every field, and uses every parameter, once and in their order. -/
  body : ∃ l, Literal.read fn.body = some l ∧ l.isWhole ∧ l.keys = s.fields.keys ∧
    l.parameters = s.fields.stored.map (·.binding.text)
  /-- It yields the record of the values it is given. -/
  call : ∀ {α : Type} (values : FieldKey → α) (clone : α → α),
    fn.call ⟨given s.fields values, none, clone⟩ =
      if s.fields.keys.Nodup then some (s.fields.record values) else none
  distinct : s.fields.shape ≠ .named → s.fields.keys.Nodup

theorem constructs_of (hfs : s.fields.LaidOut) (extended : Option Path) :
    Constructs s ⟨"new", commas ((of s extended).params.map paramTokens),
      (of s extended).construct⟩ where
  name := rfl
  params := rfl
  stored := s.map_field_stored
  body := ⟨literal s.fields, read_construct hfs extended, isWhole_literal s.fields,
    keys_literal hfs, parameters_literal s.fields⟩
  call values clone := by
    rw [FnForm.call, read_construct hfs]
    exact evaluate_literal hfs rfl
  distinct := Fields.nodup_keys_of_shape hfs.unnamed

/-- `new` belongs to the supertype if there is no stored field. -/
theorem ofTrait_of (s : StructItem) (extended : Option Path) :
    (of s extended).ofTrait = if s.storedFields.isEmpty then extended else none := by
  change (if (s.facts none).hasStored then none else extended) = _
  rw [s.hasStored_eq]
  cases s.storedFields.isEmpty <;> rfl

/-- The warning that a supertype is passed over. -/
def ignored (s : StructItem) (supertype : Path) : Diagnostic :=
  ⟨"`extends` is ignored because `" ++ s.name.text ++
    "` has stored properties; an inherent `new` is generated instead", .warning, supertype.span⟩

/-- A supertype is passed over if there is a stored field. -/
theorem diagnostics_synthesize (s : StructItem) (extended : Option Path) :
    (synthesize s extended).diagnostics =
      if s.storedFields.isEmpty then [] else extended.toList.map (ignored s) := by
  have hfacts : (s.facts extended).hasStored = !s.storedFields.isEmpty := s.hasStored_eq
  rw [synthesize, (carriesOut_synthesizeInContext _ s extended).fresh_eq,
    Outcome.diagnostics_bind_of_quiet (Outcome.quiet_log _ _ _) rfl, hfacts]
  cases s.storedFields.isEmpty <;> cases extended <;> rfl

/-- Nothing else is reported. -/
theorem diagnostics_expand (h : Item.parse item = .ok (.struct s))
    (hargs : (supertype args).result = .ok extended) :
    (expand args item).diagnostics = (synthesize s extended).diagnostics := by
  obtain ⟨list, hlist, hargs⟩ := Outcome.result_bind_eq_ok.1 hargs
  obtain ⟨_, hvalid, hpath⟩ := Outcome.result_bind_eq_ok.1 hargs
  have hitem : (liftM (Item.parse item) : Outcome Item).result = .ok (.struct s) :=
    Outcome.result_liftM_syntax.2 h
  rw [expand, (carriesOut_inContext _ args item).fresh_eq,
    Outcome.diagnostics_bind_of_quiet (Outcome.quiet_liftM_syntax _) hlist,
    Outcome.diagnostics_bind_of_quiet (Outcome.quiet_liftM_failure _) hvalid,
    Outcome.diagnostics_bind_of_quiet (Outcome.quiet_liftM_failure _) hpath,
    Outcome.diagnostics_bind_of_quiet (Outcome.quiet_liftM_syntax _) hitem,
    Outcome.diagnostics_bind_of_ok (result_synthesize extended)]
  exact List.append_nil _

/-- **What is constructed.** A struct gets an implementation with `new` alone, which yields the
record of its parameters. The implementation is that of the supertype if there is one and no field
is stored; if a field is stored, a warning tells that it is passed over. -/
theorem expand_constructs (h : Item.parse item = .ok (.struct s))
    (hargs : (supertype args).result = .ok extended) : ∃ code fn,
      (expand args item).result = .ok (s.tokens ++ implementation s.generics
        ((if s.storedFields.isEmpty then extended else none).map Path.tokens) s.name code) ∧
      functionsOf (implementation s.generics
        ((if s.storedFields.isEmpty then extended else none).map Path.tokens) s.name code) =
          some [fn] ∧
      Constructs s fn ∧
      (expand args item).diagnostics =
        if s.storedFields.isEmpty then [] else extended.toList.map (ignored s) := by
  have hresult : (expand args item).result = .ok (s.tokens ++ (of s extended).tokens) := by
    rw [result_expand h, hargs]
    rfl
  have hnew := functionsOf_new (of s extended)
  rw [← ofTrait_of]
  exact ⟨_, _, hresult, hnew, constructs_of (laidOut_of_parse h) extended,
    (diagnostics_expand h hargs).trans (diagnostics_synthesize s extended)⟩

/-- `struct Tagged(u8, PhantomData<u8>, String);` -/
def taggedSample : Tokens :=
  kw "struct" ++ kw "Tagged" ++ paren (
    kw "u8" ++ op "," ++ kw "PhantomData" ++ op "<" ++ kw "u8" ++ op ">" ++ op "," ++
    kw "String") ++ op ";"

/-- `extends = Base` -/
def baseSample : Tokens := kw "extends" ++ op "=" ++ kw "Base"

/-- With a marker between two stored fields, each of these is at its own place, and the supertype
is passed over with one warning. -/
theorem expand_constructs_tagged : ∃ s base code fn,
    Item.parse taggedSample = .ok (.struct s) ∧
      (supertype baseSample).result = .ok (some base) ∧
      (expand baseSample taggedSample).result =
        .ok (s.tokens ++ implementation s.generics none s.name code) ∧
      functionsOf (implementation s.generics none s.name code) = some [fn] ∧
      (∀ a c : Nat,
        (fn.call ⟨[("field_0", .given a), ("field_2", .given c)], none, id⟩).map
            (fun r => [r (.place 0), r (.place 1), r (.place 2), r (.place 3)]) =
          some [some (.held a), some .marker, some (.held c), none]) ∧
      (expand baseSample taggedSample).diagnostics = [ignored s base] := by
  have hsample : (structOf? taggedSample).any (fun s =>
      s.fields.shape == .unnamed && !s.storedFields.isEmpty &&
      s.fields.bound.map (fun f => (f.key, f.binding.text, f.field.isStored)) ==
        [(.place 0, "field_0", true), (.place 1, "field_1", false), (.place 2, "field_2", true)] &&
      (supertype baseSample).result.toOption.any Option.isSome) = true := by
    decide +kernel
  simp only [Option.any_eq_true, Bool.and_eq_true, beq_iff_eq, Bool.not_eq_true'] at hsample
  obtain ⟨s, hs, ⟨⟨hshape, hstored⟩, hbound⟩, extended, hextended, hsome⟩ := hsample
  obtain ⟨base, rfl⟩ := Option.isSome_iff_exists.1 hsome
  have hparse := parse_eq_of_structOf? hs
  have hargs := eq_ok_of_toOption hextended
  obtain ⟨code, fn, hexpand, hfunctions, hnew, hreports⟩ := expand_constructs hparse hargs
  simp only [hstored, Bool.false_eq_true, if_false] at hexpand hfunctions hreports
  refine ⟨s, base, code, fn, hparse, hargs, hexpand, hfunctions, fun a c => ?_, hreports⟩
  simp only [List.map_eq_cons_iff, List.map_eq_nil_iff, Prod.mk.injEq] at hbound
  obtain ⟨f₀, _, hfields, ⟨hk₀, ht₀, hs₀⟩, f₁, _, rfl, ⟨hk₁, ht₁, hs₁⟩, f₂, _, rfl,
    ⟨hk₂, ht₂, hs₂⟩, rfl⟩ := hbound
  let values : FieldKey → Nat := fun key => if key = .place 0 then a else c
  have hgiven : given s.fields values = [("field_0", .given a), ("field_2", .given c)] := by
    simp [given, Fields.stored, hfields, hs₀, hs₁, hs₂, ht₀, ht₂, hk₀, hk₂, values]
  have hcall := hnew.call values id
  rw [hgiven, if_pos (hnew.distinct (by rw [hshape]; decide))] at hcall
  rw [hcall]
  simp [Fields.record, hfields, hk₀, hk₁, hk₂, BoundField.cell, hs₀, hs₁, hs₂, values]

end Initializer

end DeclSynth
