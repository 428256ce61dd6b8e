import DeclSynth.Proofs.StoredFields.Functions
import DeclSynth.Proofs.Token
import Mathlib.Tactic.MkIffOfInductiveProp

/-!
# A struct with an attribute for every stored field

An attribute is appended to the stored fields of a struct and to no others, and
nothing else changes: without the last attribute of each stored field the struct is the
one that was given (`FieldAttribute.withoutLast_wrap`). Generated code says nothing of
attributes. Two structs are `Alike` in what it does say of them, and then the same code
is generated for both; a struct and the one with the attributes are alike.
-/

namespace DeclSynth

variable {s t w : StructItem} {a : Attribute}

/-! ## What is appended -/

/-- The fields of a struct that have more attributes in another one. -/
def StructItem.gaining (s w : StructItem) : List Field :=
  ((s.fields.toList.zip w.fields.toList).filter fun p =>
    p.1.attributes.length < p.2.attributes.length).map (·.1)

/-- A struct without the last attribute of each stored field. -/
def StructItem.withoutLast (s : StructItem) : StructItem :=
  { s with fields := s.fields.map fun f =>
      if f.isStored then { f with attributes := f.attributes.dropLast } else f }

theorem Fields.toList_map (fs : Fields) (g : Field → Field) :
    (fs.map g).toList = fs.toList.map g := by
  cases fs <;> rfl

theorem Fields.map_map (fs : Fields) (g g' : Field → Field) :
    (fs.map g).map g' = fs.map (g' ∘ g) := by
  cases fs <;> simp [Fields.map]

theorem Fields.map_id (fs : Fields) : fs.map id = fs := by
  cases fs <;> simp [Fields.map]

namespace FieldAttribute

/-- A field with an attribute behind its own, if it is stored. -/
def append (a : Attribute) (f : Field) : Field :=
  if f.isStored then { f with attributes := f.attributes ++ [a] } else f

theorem fields_wrap : (wrap a s).fields = s.fields.map (append a) := rfl

theorem toList_wrap : (wrap a s).fields.toList = s.fields.toList.map (append a) := by
  rw [fields_wrap, Fields.toList_map]

theorem isStored_append (f : Field) : (append a f).isStored = f.isStored := by
  unfold append
  split <;> rfl

/-- **The stored fields gain an attribute**, and no others. -/
theorem gaining_wrap : s.gaining (wrap a s) = s.storedFields := by
  unfold StructItem.gaining StructItem.storedFields
  rw [toList_wrap]
  induction s.fields.toList with
  | nil => rfl
  | cons f rest ih =>
    rw [List.map_cons, List.zip_cons_cons]
    cases hstored : f.isStored with
    | true =>
      rw [List.filter_cons_of_pos (p := Field.isStored) hstored,
        List.filter_cons_of_pos (by simp [append, hstored]), List.map_cons, ih]
    | false =>
      rw [List.filter_cons_of_neg (p := Field.isStored) (by simp [hstored]),
        List.filter_cons_of_neg (by simp [append, hstored]), ih]

theorem storedFields_wrap :
    (wrap a s).storedFields =
      s.storedFields.map fun f => { f with attributes := f.attributes ++ [a] } := by
  unfold StructItem.storedFields
  rw [toList_wrap]
  induction s.fields.toList with
  | nil => rfl
  | cons f rest ih =>
    rw [List.map_cons]
    cases hstored : f.isStored with
    | true =>
      rw [List.filter_cons_of_pos (a := f) hstored,
        List.filter_cons_of_pos (by rwa [isStored_append]), List.map_cons, ih, append,
        if_pos hstored]
    | false =>
      rw [List.filter_cons_of_neg (a := f) (by simp [hstored]),
        List.filter_cons_of_neg (by simp [isStored_append, hstored]), ih]

/-- **Without the last attribute of each stored field, the struct is the one that was given.** -/
theorem withoutLast_wrap : (wrap a s).withoutLast = s := by
  have hfields : (s.fields.map (append a)).map (fun f =>
      if f.isStored then { f with attributes := f.attributes.dropLast } else f) = s.fields := by
    rw [Fields.map_map]
    refine Eq.trans ?_ s.fields.map_id
    congr 1
    funext f
    -- the attribute is appended where it is dropped: it does not tell whether a field is stored
    rw [Function.comp_apply, isStored_append]
    cases hstored : f.isStored with
    | true => simp [append, hstored]
    | false => simp [append, hstored]
  unfold StructItem.withoutLast
  rw [fields_wrap, hfields]
  rfl

end FieldAttribute

/-! ## Alike structs -/

/-- What generated code says of a field: its name, its type, and whether it is stored. -/
def Field.look (f : Field) : Option Ident × Tokens × Bool := (f.name, f.ty.tokens, f.isStored)

/-- Two structs are alike for those who generate code for them: they are called alike, are seen as
far, have fields that look alike, and their parameters are written alike. -/
@[mk_iff]
structure Alike (s t : StructItem) : Prop where
  name : t.name = s.name
  vis : t.vis = s.vis
  shape : t.fields.shape = s.fields.shape
  looks : t.fields.toList.map Field.look = s.fields.toList.map Field.look
  implemented : t.generics.implemented = s.generics.implemented
  applied : t.generics.applied = s.generics.applied
  whereTokens : t.generics.whereTokens = s.generics.whereTokens
  /-- Also with the bounds that an equality asks for. -/
  required : (Equality.params ⟨t⟩).implemented = (Equality.params ⟨s⟩).implemented

instance : Decidable (Alike s t) := decidable_of_iff' _ (alike_iff s t)

theorem Alike.trans (hst : Alike s t) (htw : Alike t w) : Alike s w where
  name := htw.name.trans hst.name
  vis := htw.vis.trans hst.vis
  shape := htw.shape.trans hst.shape
  looks := htw.looks.trans hst.looks
  implemented := htw.implemented.trans hst.implemented
  applied := htw.applied.trans hst.applied
  whereTokens := htw.whereTokens.trans hst.whereTokens
  required := htw.required.trans hst.required

/-- **An appended attribute does not show.** -/
theorem alike_wrap : Alike s (FieldAttribute.wrap a s) where
  name := rfl
  vis := rfl
  shape := by
    rw [FieldAttribute.fields_wrap]
    cases s.fields <;> rfl
  looks := by
    rw [FieldAttribute.toList_wrap, List.map_map]
    refine List.map_congr_left fun f _ => ?_
    rw [Function.comp_apply, FieldAttribute.append]
    split <;> rfl
  implemented := rfl
  applied := rfl
  whereTokens := rfl
  required := rfl

/-- What generated code says of a bound field. -/
def BoundField.look (b : BoundField) : Ident × FieldMember × Tokens × Bool :=
  (b.binding, b.member, b.field.ty.tokens, b.field.isStored)

/-- What generated code says of a field at a place. -/
def lookAt (i : Nat) (look : Option Ident × Tokens × Bool) : Ident × FieldMember × Tokens × Bool :=
  match look.1 with
  | some name => (name, .named name, look.2)
  | none => (positionalBinding i, .index i, look.2)

theorem look_at (i : Nat) (f : Field) : (BoundField.at i f).look = lookAt i f.look := by
  unfold BoundField.at lookAt Field.look
  cases f.name <;> rfl

theorem Fields.map_look_bound (fs : Fields) :
    fs.bound.map BoundField.look =
      (fs.toList.map Field.look).zipIdx.map fun p => lookAt p.2 p.1 := by
  rw [Fields.bound, List.map_map, List.zipIdx_map, List.map_map]
  exact List.map_congr_left fun p _ => look_at p.2 p.1

/-- The bound that an equality asks for does not show where a parameter is an argument. -/
theorem Equality.applied_params : (Equality.params ⟨s⟩).applied = s.generics.applied := by
  have hparam : GenericParam.applied ∘ requireEquality = GenericParam.applied := by
    funext p
    cases p <;> rfl
  simp [params, Generics.applied, Generics.list, hparam]

namespace Alike

variable (h : Alike s t)
include h

theorem bound : t.fields.bound.map BoundField.look = s.fields.bound.map BoundField.look := by
  rw [Fields.map_look_bound, Fields.map_look_bound, h.looks]

section Map

variable {α : Type} {g : BoundField → α} {k : Ident × FieldMember × Tokens × Bool → α}

/-- What is said of the fields is the same of both. -/
theorem map_bound (hg : ∀ b, g b = k b.look) : t.fields.bound.map g = s.fields.bound.map g := by
  have hmap (fs : Fields) : fs.bound.map g = (fs.bound.map BoundField.look).map k := by
    rw [List.map_map]
    exact List.map_congr_left fun b _ => hg b
  rw [hmap, hmap, h.bound]

theorem map_stored (hg : ∀ b, g b = k b.look) : t.fields.stored.map g = s.fields.stored.map g := by
  have hmap (fs : Fields) : fs.stored.map g =
      ((fs.bound.map BoundField.look).filter (·.2.2.2)).map k := by
    rw [Fields.stored, List.filter_map, List.map_map]
    exact List.map_congr_left fun b _ => hg b
  rw [hmap, hmap, h.bound]

theorem map_typeLevel (hg : ∀ b, g b = k b.look) :
    t.fields.typeLevel.map g = s.fields.typeLevel.map g := by
  have hmap (fs : Fields) : fs.typeLevel.map g =
      ((fs.bound.map BoundField.look).filter (!·.2.2.2)).map k := by
    rw [Fields.typeLevel, List.filter_map, List.map_map]
    exact List.map_congr_left fun b _ => hg b
  rw [hmap, hmap, h.bound]

end Map

theorem hasStored : (t.facts none).hasStored = (s.facts none).hasStored := by
  have hany (r : StructItem) : (r.facts none).hasStored =
      (r.fields.toList.map Field.look).any (·.2.2) := by
    rw [List.any_map]
    rfl
  rw [hany, hany, h.looks]

/-- **Alike structs get the same initializer.** -/
theorem initializer_eq (supertype : Option Path) :
    (Initializer.of t supertype).tokens = (Initializer.of s supertype).tokens := by
  have hsubject (r : StructItem) : (Initializer.of r supertype).subject = r := rfl
  have hofTrait : (Initializer.of t supertype).ofTrait = (Initializer.of s supertype).ofTrait := by
    change (if (t.facts none).hasStored then none else supertype) =
      if (s.facts none).hasStored then none else supertype
    rw [h.hasStored]
  have hparams : (Initializer.of t supertype).params.map Initializer.paramTokens =
      (Initializer.of s supertype).params.map Initializer.paramTokens :=
    h.map_stored (k := fun l => l.1.tokens ++ op ":" ++ l.2.2.1) fun _ => rfl
  let value (l : Ident × FieldMember × Tokens × Bool) : InitialValue :=
    if l.2.2.2 then .parameter l.1 else .marker
  have hconstruct : (Initializer.of t supertype).construct =
      (Initializer.of s supertype).construct := by
    have hnamed : (Initializer.of t supertype).assignments.map Initializer.namedTokens =
        (Initializer.of s supertype).assignments.map Initializer.namedTokens := by
      rw [Initializer.assignments, Initializer.assignments, List.map_map, List.map_map]
      exact h.map_bound (k := fun l => Initializer.namedTokens (l.2.1, value l)) fun _ => rfl
    have hvalues : (Initializer.of t supertype).assignments.map
          (fun p => Initializer.valueTokens p.2) =
        (Initializer.of s supertype).assignments.map fun p => Initializer.valueTokens p.2 := by
      rw [Initializer.assignments, Initializer.assignments, List.map_map, List.map_map]
      exact h.map_bound (k := fun l => Initializer.valueTokens (value l)) fun _ => rfl
    rw [Initializer.construct, Initializer.construct, hnamed, hvalues, hsubject, hsubject, h.shape]
  rw [Initializer.tokens, Initializer.tokens, hofTrait, hparams, hconstruct, hsubject, hsubject,
    implementation, implementation, h.implemented, h.applied, h.whereTokens, h.name, h.vis]

/-- **Alike structs get the same copy methods.** -/
theorem copyMethods_eq : (CopyMethods.of t).tokens = (CopyMethods.of s).tokens := by
  have hparams : (CopyMethods.of t).stored.map CopyMethods.paramTokens =
      (CopyMethods.of s).stored.map CopyMethods.paramTokens :=
    h.map_stored (k := fun l => l.1.tokens ++ op ":" ++ absolute ["core", "option", "Option"] ++
      op "<" ++ l.2.2.1 ++ op ">") fun _ => rfl
  have hstored : (CopyMethods.of t).stored.map CopyMethods.storedTokens =
      (CopyMethods.of s).stored.map CopyMethods.storedTokens :=
    h.map_stored (k := fun l => l.2.1.tokens ++ op ":" ++ l.1.tokens ++ op "." ++
      kw "unwrap_or_else" ++ paren (op "||" ++ absolute ["core", "clone", "Clone", "clone"] ++
        paren (op "&" ++ kw "self" ++ op "." ++ l.2.1.tokens))) fun _ => rfl
  have hmarkers : (CopyMethods.of t).markers.map CopyMethods.markerTokens =
      (CopyMethods.of s).markers.map CopyMethods.markerTokens :=
    h.map_typeLevel (k := fun l => l.2.1.tokens ++ op ":" ++
      absolute ["core", "marker", "PhantomData"]) fun _ => rfl
  have hcopy : (CopyMethods.of t).copyTokens = (CopyMethods.of s).copyTokens := by
    rw [CopyMethods.copyTokens, CopyMethods.copyTokens, hparams, hstored, hmarkers]
    exact congrArg (fun vis : Visibility => vis.tokens ++ _ ++ _ ++ _ ++ _ ++ _ ++ _) h.vis
  have hwithers : (CopyMethods.of t).withers.map (CopyMethods.witherTokens t.vis) =
      (CopyMethods.of s).withers.map (CopyMethods.witherTokens s.vis) := by
    rw [CopyMethods.of, CopyMethods.of, List.map_map, List.map_map, h.vis]
    exact h.map_stored (k := fun l =>
      s.vis.tokens ++ kw "fn" ++
        (Ident.prefixed ['w', 'i', 't', 'h', '_'] (by decide) l.1).tokens ++
        paren (kw "self" ++ op "," ++ l.1.tokens ++ op ":" ++ l.2.2.1) ++
        op "->" ++ kw "Self" ++ brace (kw "Self" ++ brace (
          l.2.1.tokens ++ op ":" ++ l.1.tokens ++ op "," ++ op ".." ++ kw "self"))) fun _ => rfl
  have himpl (body : Tokens) : implementation t.generics none t.name body =
      implementation s.generics none s.name body := by
    rw [implementation, implementation, h.implemented, h.applied, h.whereTokens, h.name]
  rw [CopyMethods.tokens, CopyMethods.tokens, hcopy, List.flatMap_def, List.flatMap_def]
  exact congrArg (derivedMark ++ ·) ((himpl _).trans (congrArg
    (fun methods => implementation s.generics none s.name
      ((CopyMethods.of s).copyTokens ++ List.flatten methods)) hwithers))

/-- **Alike structs get the same equality.** -/
theorem equality_eq : Equality.tokens ⟨t⟩ = Equality.tokens ⟨s⟩ := by
  have hcompared : Equality.compared ⟨t⟩ = Equality.compared ⟨s⟩ :=
    h.map_stored (k := fun l => l.2.1) fun _ => rfl
  have himpl (ofTrait : Option Tokens) (body : Tokens) :
      implementation (Equality.params ⟨t⟩) ofTrait t.name body =
        implementation (Equality.params ⟨s⟩) ofTrait s.name body := by
    have hwhere : (Equality.params ⟨t⟩).whereTokens = (Equality.params ⟨s⟩).whereTokens :=
      h.whereTokens
    rw [implementation, implementation, h.required, Equality.applied_params,
      Equality.applied_params, h.applied, hwhere, h.name]
  unfold Equality.tokens
  rw [hcompared]
  exact congrArg (derivedMark ++ ·) (himpl _ _)

end Alike

end DeclSynth
