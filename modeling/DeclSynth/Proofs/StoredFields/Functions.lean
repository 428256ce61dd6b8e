import DeclSynth.Expansion
import DeclSynth.Proofs.Sealed.ReadBack

/-!
# Functions of stored fields

What is generated for a struct is an implementation, the functions of which
`functionsOf` reads back. For a struct with named fields they are told by one list,
its stored fields: `new` and `copy` take a parameter for each of them, each has a
method that replaces it, and the equality compares them one after the other.
-/

namespace DeclSynth

open Sealed.Code (readEach Reads isBody inside bare Open reads_append reads_flatMap)
open Sealed (reads_block bare_vis)

/-! ## Functions of an implementation -/

/-- A function as it is written: its name, its parameters and its body. -/
structure FnForm where
  name : String
  params : Tokens
  body : Tokens

/-- The function that tokens declare. -/
def readFunction (head : Tokens) (body : Token) : Option FnForm :=
  match bare head with
  | .word "fn" _ :: .word name _ :: .group .parenthesis params _ :: _ =>
    some ⟨name, params, inside body⟩
  | _ => none

/-- The functions in the body of an implementation, which stands last. -/
def functionsOf (implementation : Tokens) : Option (List FnForm) :=
  implementation.getLast?.bind fun body => readEach isBody readFunction [] (inside body)

theorem functionsOf_implementation (before : Tokens) (params : Generics) (ofTrait : Option Tokens)
    (name : Ident) {body : Tokens} {functions : List FnForm}
    (h : Reads isBody readFunction body functions) :
    functionsOf (before ++ implementation params ofTrait name body) = some functions := by
  have hlast : (before ++ implementation params ofTrait name body).getLast? =
      some (.group .brace body .callSite) := by
    simp [implementation, brace, ← List.append_assoc]
  rw [functionsOf, hlast]
  exact h.readEach_eq

/-- A function is read. -/
theorem reads_function (vis : Visibility) (name : String) (span : Span)
    (params body : Tokens) {result : Tokens} (hresult : Open isBody result) :
    Reads isBody readFunction
      (vis.tokens ++ kw "fn" ++ [.word name span] ++ paren params ++ result ++ brace body)
      [⟨name, params, body⟩] := by
  refine reads_block (by simp [hresult, isBody]) ?_
  have hbare : bare (vis.tokens ++ kw "fn" ++ [.word name span] ++ paren params ++ result) =
      kw "fn" ++ [.word name span] ++ paren params ++ result := by
    simp only [List.append_assoc]
    exact bare_vis (by decide)
  rw [readFunction, hbare]
  rfl

/-! ## Stored fields -/

/-- The stored fields of a struct, in declaration order. -/
def StructItem.storedFields (s : StructItem) : List Field := s.fields.toList.filter Field.isStored

theorem BoundField.field_at (i : Nat) (f : Field) : (BoundField.at i f).field = f := by
  unfold BoundField.at
  split <;> rfl

/-- What is made of each stored field with its binding is made of the stored fields in turn. -/
theorem StructItem.map_stored {α : Type} {s : StructItem} {g : BoundField → α} {g' : Field → α}
    (h : ∀ f ∈ s.storedFields, ∀ i, g (.at i f) = g' f) :
    s.fields.stored.map g = s.storedFields.map g' := by
  unfold StructItem.storedFields at h ⊢
  unfold Fields.stored Fields.bound
  -- a field's place counts the fields before it that are not stored, too
  generalize 0 = start
  generalize s.fields.toList = fields at h ⊢
  induction fields generalizing start with
  | nil => rfl
  | cons f rest ih =>
    rw [List.zipIdx_cons, List.map_cons]
    cases hstored : f.isStored with
    | true =>
      rw [List.filter_cons_of_pos hstored] at h ⊢
      rw [List.filter_cons_of_pos (by rwa [BoundField.field_at]), List.map_cons, List.map_cons,
        h f List.mem_cons_self, ih _ fun f' hf' => h f' (List.mem_cons_of_mem _ hf')]
    | false =>
      have hbound : (BoundField.at start f).field.isStored = false := by
        rw [BoundField.field_at, hstored]
      rw [List.filter_cons_of_neg (p := Field.isStored) (a := f) (by simp [hstored])] at h ⊢
      rw [List.filter_cons_of_neg (by simp [hbound]), ih _ h]

theorem StructItem.map_field_stored (s : StructItem) :
    s.fields.stored.map (·.field) = s.storedFields := by
  have hfields : s.fields.stored.map (·.field) = s.storedFields.map id :=
    StructItem.map_stored fun f _ i => BoundField.field_at i f
  rw [hfields, List.map_id]

/-- A struct with named fields. -/
structure StructItem.HasNamedFields (s : StructItem) : Prop where
  shape : s.fields.shape = .named
  named : ∀ f ∈ s.fields.toList, f.name.isSome = true

/-- The name of a field. -/
def Field.nameTokens (f : Field) : Tokens := (f.name.map Ident.tokens).getD []

/-- A field's name with its type. -/
def Field.declaredTokens (f : Field) : Tokens := f.nameTokens ++ op ":" ++ f.ty.tokens

theorem BoundField.at_of_named {f : Field} {name : Ident} (h : f.name = some name) (i : Nat) :
    BoundField.at i f = ⟨name, .named name, f⟩ := by
  unfold BoundField.at
  rw [h]

/-- What is made of stored fields with names. -/
theorem StructItem.HasNamedFields.map_stored {α : Type} {s : StructItem} (hs : s.HasNamedFields)
    {g : BoundField → α} {g' : Field → α}
    (h : ∀ f name, f.name = some name → g ⟨name, .named name, f⟩ = g' f) :
    s.fields.stored.map g = s.storedFields.map g' := by
  refine StructItem.map_stored fun f hf i => ?_
  obtain ⟨name, hname⟩ := Option.isSome_iff_exists.1 (hs.named f (List.mem_filter.1 hf).1)
  rw [BoundField.at_of_named hname, h f name hname]

/-! ## Implementations -/

/-- The implementation of an initializer holds `new`, with the parameters and the new value. -/
theorem functionsOf_new (i : Initializer) :
    functionsOf i.tokens = some [⟨"new", commas (i.params.map Initializer.paramTokens),
      i.construct⟩] := by
  have hresult : Open isBody (op "->" ++ kw "Self") := by simp
  have hfunction (vis : Visibility) := reads_function vis "new" .callSite
    (commas (i.params.map Initializer.paramTokens)) i.construct hresult
  unfold Initializer.tokens
  refine functionsOf_implementation [] _ _ _ ?_
  simp only [List.append_assoc] at hfunction ⊢
  split
  · exact hfunction .inherited
  · exact hfunction i.subject.vis

section Implementations

variable {s : StructItem} (hs : s.HasNamedFields)
include hs

/-- **The parameters of `new` are the stored fields with their types.** -/
theorem functionsOf_initializer (supertype : Option Path) :
    functionsOf (Initializer.of s supertype).tokens = some
      [⟨"new", commas (s.storedFields.map Field.declaredTokens),
        (Initializer.of s supertype).construct⟩] := by
  have hparams : (Initializer.of s supertype).params.map Initializer.paramTokens =
      s.storedFields.map Field.declaredTokens := by
    refine hs.map_stored fun f name hname => ?_
    simp [Initializer.paramTokens, Field.declaredTokens, Field.nameTokens, hname]
  rw [functionsOf_new, hparams]

/-- A stored field's parameter of `copy`. -/
def Field.optionalTokens (f : Field) : Tokens :=
  f.nameTokens ++ op ":" ++ absolute ["core", "option", "Option"] ++ op "<" ++ f.ty.tokens ++
    op ">"

/-- The method that replaces a field: `with_` and the field's name, without the mark of a raw
one. -/
def Field.wither (f : Field) : FnForm :=
  ⟨"with_" ++ (f.name.map Ident.plainText).getD "", kw "self" ++ op "," ++ f.declaredTokens,
    kw "Self" ++ brace (f.nameTokens ++ op ":" ++ f.nameTokens ++ op "," ++ op ".." ++ kw "self")⟩

/-- The value that `copy` yields. -/
def CopyMethods.copyBody (c : CopyMethods) : Tokens :=
  kw "Self" ++ brace (
    eachWithComma (c.stored.map storedTokens) ++ eachWithComma (c.markers.map markerTokens))

/-- The implementation of copy methods holds `copy` and a method for each stored field. -/
theorem functionsOf_copyMethods_eq :
    functionsOf (CopyMethods.of s).tokens = some
      (⟨"copy", op "&" ++ kw "self" ++ op "," ++
          commas (s.storedFields.map Field.optionalTokens), (CopyMethods.of s).copyBody⟩ ::
        s.storedFields.map Field.wither) := by
  have hparams : (CopyMethods.of s).stored.map CopyMethods.paramTokens =
      s.storedFields.map Field.optionalTokens := by
    refine hs.map_stored fun f name hname => ?_
    simp [CopyMethods.paramTokens, Field.optionalTokens, Field.nameTokens, hname]
  have hresult : Open isBody (op "->" ++ kw "Self") := by simp
  have hwithers : Reads isBody readFunction
      ((CopyMethods.of s).withers.flatMap (CopyMethods.witherTokens s.vis))
      (s.storedFields.map Field.wither) := by
    have htokens : (CopyMethods.of s).withers.map (CopyMethods.witherTokens s.vis) =
        s.storedFields.map fun f => s.vis.tokens ++ kw "fn" ++
          [.word f.wither.name ((f.name.map Ident.span).getD .callSite)] ++ paren f.wither.params ++
          (op "->" ++ kw "Self") ++ brace f.wither.body := by
      rw [CopyMethods.of, List.map_map]
      refine hs.map_stored fun f name hname => ?_
      have hname' : String.ofList (['w', 'i', 't', 'h', '_'] ++ name.plainText.toList) =
          "with_" ++ name.plainText := by
        rw [String.ofList_append, String.ofList_toList]
      simp [CopyMethods.witherTokens, CopyMethods.wither, Field.wither, Field.declaredTokens,
        Field.nameTokens, Ident.prefixed, Ident.tokens, FieldMember.tokens, hname, ← hname']
    rw [List.flatMap_def, htokens, ← List.flatMap_def, List.map_eq_flatMap]
    exact reads_flatMap fun f _ => reads_function _ _ _ _ _ hresult
  have hcopy := reads_append (reads_function s.vis "copy" .callSite
    (op "&" ++ kw "self" ++ op "," ++ commas (s.storedFields.map Field.optionalTokens))
    (CopyMethods.of s).copyBody hresult) hwithers
  have htokens : (CopyMethods.of s).copyTokens =
      s.vis.tokens ++ kw "fn" ++ [.word "copy" .callSite] ++ paren (op "&" ++ kw "self" ++ op "," ++
        commas (s.storedFields.map Field.optionalTokens)) ++ (op "->" ++ kw "Self") ++
        brace (CopyMethods.of s).copyBody := by
    rw [CopyMethods.copyTokens, hparams]
    simp only [List.append_assoc]
    rfl
  -- the parameters of `copy` are told by `hparams`, the rest stands as it is written
  rw [← htokens] at hcopy
  exact functionsOf_implementation derivedMark s.generics none s.name hcopy

/-- **`copy` has a parameter for each stored field, and each of them has its own method.** -/
theorem functionsOf_copyMethods :
    ∃ body, functionsOf (CopyMethods.of s).tokens = some
      (⟨"copy", op "&" ++ kw "self" ++ op "," ++
          commas (s.storedFields.map Field.optionalTokens), body⟩ ::
        s.storedFields.map Field.wither) :=
  ⟨_, functionsOf_copyMethods_eq hs⟩

/-- The comparison of a field. -/
def Field.comparisonTokens (f : Field) : Tokens :=
  kw "self" ++ op "." ++ f.nameTokens ++ op "==" ++ kw "other" ++ op "." ++ f.nameTokens

/-- **The stored fields are compared, one after the other.** -/
theorem functionsOf_equality :
    ∃ params, functionsOf (Equality.tokens ⟨s⟩) = some [⟨"eq", params,
      if s.storedFields.isEmpty then kw "true"
      else separated (op "&&") false (s.storedFields.map Field.comparisonTokens)⟩] := by
  have hterms : (Equality.compared ⟨s⟩).map Equality.termTokens =
      s.storedFields.map Field.comparisonTokens := by
    rw [Equality.compared, List.map_map]
    refine hs.map_stored fun f name hname => ?_
    simp [Equality.termTokens, Field.comparisonTokens, Field.nameTokens, FieldMember.tokens, hname]
  have hresult : Open isBody (op "->" ++ kw "bool") := by simp
  have hfunction (params body : Tokens) : Reads isBody readFunction
      (kw "fn" ++ kw "eq" ++ paren params ++ op "->" ++ kw "bool" ++ brace body)
      [⟨"eq", params, body⟩] := by
    have hread := reads_function .inherited "eq" .callSite params body hresult
    simp only [List.append_assoc] at hread ⊢
    exact hread
  have himpl (params body : Tokens) := functionsOf_implementation derivedMark (Equality.params ⟨s⟩)
    (some Equality.traitPath.tokens) s.name (hfunction params body)
  unfold Equality.tokens
  dsimp only
  cases hcompared : Equality.compared ⟨s⟩ with
  | nil =>
    rw [hcompared, List.map_nil, eq_comm, List.map_eq_nil_iff] at hterms
    rw [hterms]
    exact ⟨_, himpl _ _⟩
  | cons member rest =>
    rw [hcompared] at hterms
    have hsome : s.storedFields.isEmpty = false := by
      cases hstored : s.storedFields with
      | nil => simp [hstored] at hterms
      | cons => rfl
    rw [hsome, ← hterms]
    exact ⟨_, himpl _ _⟩

end Implementations

end DeclSynth
