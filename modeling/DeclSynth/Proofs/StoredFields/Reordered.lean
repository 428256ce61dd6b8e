import DeclSynth.Proofs.Argument
import DeclSynth.Proofs.InContext.Expanders
import DeclSynth.Proofs.Syntax.Fields
import DeclSynth.Proofs.Syntax.Forms

/-!
# The order of arguments in `#[stored(..)]`

A struct is `Reordered` into another one if the two print the same, places aside, but
for the marks of their stored fields, and the lists of these marks are permuted and
accepted. A field's accessors depend on the values under the labels alone
(`ofArguments_of_permuted`), and no mark is left on the fields that stay. So a struct and
its reordering get the same accessors, or fail for the same cause
(`expand_of_reordered`), and lose their marks to the same tokens
(`withoutMarks_of_reordered`).
-/

namespace DeclSynth

open ArgumentList

/-! ## Values -/

mutual

/-- **The kind of a default value does not depend on where the value is written.** -/
theorem Expr.defaultKind?_unplaced : (e : Expr) → e.unplaced.defaultKind? = e.defaultKind?
  | .mk _ _ _ outline => outline.defaultKind?_unplaced

theorem Outline.defaultKind?_unplaced : (o : Outline) → o.unplaced.defaultKind? = o.defaultKind?
  | .negation operand => congrArg (·.bind DefaultKind.negated?) operand.defaultKind?_unplaced
  | .paren inner => inner.defaultKind?_unplaced
  | .literal .. | .path .. | .array _ | .range | .comparison | .block | .macroCall _ | .verbatim
  | .other => rfl

end

/-! ## Reordered structs -/

/-- Whether two marks have permuted lists, which are accepted. -/
def StoredField.ListsPermuted (a b : Attribute) : Prop :=
  ∃ l₁ l₂, ofAttribute a = .ok l₁ ∧ ofAttribute b = .ok l₂ ∧ Permuted l₁ l₂ ∧
    l₁.validate StoredField.spec = .ok ()

/-- Whether two fields are the same, places aside, but for the order of the arguments of the mark
that is read. -/
structure Field.Reordered (f g : Field) : Prop where
  attributes : (stripAttribute StoredField.mark f.attributes).map Attribute.unplaced =
    (stripAttribute StoredField.mark g.attributes).map Attribute.unplaced
  lists : Option.Rel StoredField.ListsPermuted (findAttribute StoredField.mark f.attributes)
    (findAttribute StoredField.mark g.attributes)
  vis : f.vis.tokens.unplaced = g.vis.tokens.unplaced
  name : f.name.map Ident.unplaced = g.name.map Ident.unplaced
  ty : f.ty.tokens.unplaced = g.ty.tokens.unplaced

/-- Whether fields are reordered one by one, in the same layout. -/
inductive Fields.Reordered : Fields → Fields → Prop where
  | named {fs gs : List Field} (each : List.Forall₂ Field.Reordered fs gs) (trailing : Bool) :
    Reordered (.named fs trailing) (.named gs trailing)
  | positional {fs gs : List Field} (each : List.Forall₂ Field.Reordered fs gs)
    (trailing : Bool) : Reordered (.positional fs trailing) (.positional gs trailing)
  | unit : Reordered .unit .unit

/-- Whether two structs are the same, places aside, up to their fields. -/
structure StructItem.SameHead (s t : StructItem) : Prop where
  attributes : (outerAttributes s.attributes).unplaced = (outerAttributes t.attributes).unplaced
  vis : s.vis.tokens.unplaced = t.vis.tokens.unplaced
  name : s.name.unplaced = t.name.unplaced
  declared : s.generics.declared.unplaced = t.generics.declared.unplaced
  implemented : s.generics.implemented.unplaced = t.generics.implemented.unplaced
  applied : s.generics.applied.unplaced = t.generics.applied.unplaced
  clause : s.generics.whereTokens.unplaced = t.generics.whereTokens.unplaced

/-- Whether two structs are the same, places aside, but for the order of the arguments of the
marks of their stored fields. -/
structure StructItem.Reordered (s t : StructItem) : Prop extends StructItem.SameHead s t where
  fields : Fields.Reordered s.fields t.fields

/-! ## Accessors -/

namespace StoredField

variable {store : Expr} {runtime : Path} {f g : Field} {name name' : Ident}
  {l₁ l₂ : ArgumentList}

/-- What the accessors of a field print, without places. -/
def accessors (runtime : Path) (f : StoredField) : Tokens :=
  Tokens.unplaced (f.getterTokens runtime ++ f.setterTokens runtime)

/-- Whether two stored fields print the same parts of accessors, places aside. -/
structure SameParts (f g : StoredField) : Prop where
  attributes : f.field.attributes.map Attribute.unplaced = g.field.attributes.map Attribute.unplaced
  vis : f.field.vis.tokens.unplaced = g.field.vis.tokens.unplaced
  ty : f.field.ty.tokens.unplaced = g.field.ty.tokens.unplaced
  getter : f.getter.unplaced = g.getter.unplaced
  key : f.key.unplaced = g.key.unplaced
  default : f.default.tokens.unplaced = g.default.tokens.unplaced
  kind : f.kind = g.kind
  store : f.store.tokens.unplaced = g.store.tokens.unplaced

namespace SameParts

variable {f g : StoredField} (h : SameParts f g)

include h

theorem docs : Tokens.unplaced ((f.field.attributes.filter (·.isNamed "doc")).flatMap (·.tokens)) =
    Tokens.unplaced ((g.field.attributes.filter (·.isNamed "doc")).flatMap (·.tokens)) := by
  have hdocs (as : List Attribute) :
      Tokens.unplaced ((as.filter (·.isNamed "doc")).flatMap (·.tokens)) =
        ((as.map Attribute.unplaced).filter (·.isNamed "doc")).flatMap (·.tokens) := by
    simp only [Tokens.unplaced_flatMap, List.filter_map, List.flatMap_map, Function.comp_def,
      Attribute.isNamed_unplaced, Attribute.tokens_unplaced]
  rw [hdocs, hdocs, h.attributes]

theorem setter : f.setter.unplaced = g.setter.unplaced := by
  have hplain : f.getter.plainText = g.getter.plainText := by
    rw [← Ident.plainText_unplaced, h.getter, Ident.plainText_unplaced]
  rw [Ident.unplaced_eq_iff]
  simp only [StoredField.setter, Ident.prefixed, hplain]

theorem openTokens (runtime : Path) :
    (f.openTokens runtime).unplaced = (g.openTokens runtime).unplaced := by
  simp only [StoredField.openTokens, Tokens.unplaced_append, h.store]

theorem readTokens : f.readTokens.unplaced = g.readTokens.unplaced := by
  unfold StoredField.readTokens
  rw [h.kind]
  cases g.kind <;>
    simp [convertTokens, eachWithComma, h.key, h.default, h.ty]

/-- **Accessors print the parts of their field.** -/
theorem accessors_eq (runtime : Path) : accessors runtime f = accessors runtime g := by
  simp only [accessors, StoredField.getterTokens, StoredField.setterTokens, Tokens.unplaced_append,
    Tokens.unplaced_paren, Tokens.unplaced_brace, h.docs, h.vis, h.ty, h.key,
    Ident.tokens_congr h.getter, Ident.tokens_congr h.setter, h.openTokens, h.readTokens]

end SameParts

/-- The key that is given, or else the name. -/
def writtenKey (name : Ident) : Option (String × Span) → Except Failure Tokens
  | some (text, span) => .ok [.literal text span]
  | none => .ok (str name.text)

theorem keyOf_eq (name : Ident) (l : ArgumentList) :
    keyOf name l = l.string "key" >>= writtenKey name := by
  unfold keyOf
  rcases l.string "key" with f | _ | ⟨text, span⟩ <;> rfl

/-- Permuted lists give the same key. -/
theorem keyOf_of_permuted (h : Permuted l₁ l₂) (hvalid : l₁.validate spec = .ok ())
    (hname : name.unplaced = name'.unplaced) :
    placeless Tokens.unplaced (keyOf name l₁) = placeless Tokens.unplaced (keyOf name' l₂) := by
  rw [keyOf_eq, keyOf_eq]
  refine placeless_bind (h.string hvalid "key") fun given₁ given₂ hgiven => ?_
  obtain ⟨rfl, rfl⟩ | ⟨key₁, key₂, rfl, rfl, hkey⟩ := map_eq_map_cases hgiven
  · rw [writtenKey, writtenKey, Ident.unplaced_eq_iff.1 hname]
  · exact congrArg (fun text => Except.ok [Token.literal text .callSite]) hkey

/-- **A field whose mark has a permuted list gets the same accessors**, or fails for the same
cause. -/
theorem ofArguments_of_permuted (runtime : Path) (h : Permuted l₁ l₂)
    (hvalid : l₁.validate spec = .ok ()) (hfield : Field.Reordered f g)
    (hname : name.unplaced = name'.unplaced) :
    placeless (accessors runtime) (ofArguments store f name l₁) =
      placeless (accessors runtime) (ofArguments store g name' l₂) := by
  have hcheck : placeless id (l₁.validate spec) = placeless id (l₂.validate spec) := by
    rw [hvalid, (h.validate_iff spec).1 hvalid]
  have hstore : ((l₁.value? "store").getD store).unplaced =
      ((l₂.value? "store").getD store).unplaced := by
    rw [← Option.getD_map Expr.unplaced, ← Option.getD_map Expr.unplaced, h.value? hvalid "store"]
  unfold ofArguments
  refine placeless_bind hcheck fun _ _ _ => ?_
  obtain ⟨h₁, h₂⟩ | ⟨default₁, default₂, h₁, h₂, hdefault⟩ :=
    map_eq_map_cases (h.value? hvalid "default_value")
  · rw [h₁, h₂]
    rfl
  · have hkind : default₁.defaultKind? = default₂.defaultKind? := by
      rw [← default₁.defaultKind?_unplaced, hdefault, default₂.defaultKind?_unplaced]
    rw [h₁, h₂]
    dsimp only
    rw [hkind]
    cases default₂.defaultKind? with
    | none => rfl
    | some kind =>
      refine placeless_bind (keyOf_of_permuted h hvalid hname) fun key₁ key₂ hkey => ?_
      refine congrArg Except.ok (SameParts.accessors_eq ?_ runtime)
      exact ⟨hfield.attributes, hfield.vis, hfield.ty, hname, hkey,
        Expr.tokens_congr hdefault, rfl, Expr.tokens_congr hstore⟩

/-- **A reordered field gets the same accessors**, or none as the field does. -/
theorem ofField?_of_reordered (store : Expr) (runtime : Path) (h : Field.Reordered f g) :
    placeless (Option.map (accessors runtime)) (ofField? store f) =
      placeless (Option.map (accessors runtime)) (ofField? store g) := by
  unfold ofField?
  obtain ⟨ha, hb⟩ | ⟨a, b, ha, hb, l₁, l₂, h₁, h₂, hlists, hvalid⟩ := rel_cases h.lists
  · rw [ha, hb]
  · rw [ha, hb]
    obtain ⟨hf, hg⟩ | ⟨name, name', hf, hg, hname⟩ := map_eq_map_cases h.name
    · rw [hf, hg]
    · rw [hf, hg]
      dsimp only
      rw [h₁, h₂]
      change placeless _ (ofArguments store f name l₁ >>= fun found => .ok (some found)) =
        placeless _ (ofArguments store g name' l₂ >>= fun found => .ok (some found))
      exact placeless_bind (ofArguments_of_permuted runtime hlists hvalid h hname)
        fun found₁ found₂ hfound => congrArg (fun ts => Except.ok (some ts)) hfound

/-! ## Fields that stay -/

/-- A field without its marks. -/
def unmarked (f : Field) : Field := { f with attributes := stripAttribute mark f.attributes }

/-- Whether a field becomes accessors: it is marked, and has a name. -/
def leaves (f : Field) : Bool := (findAttribute mark f.attributes).isSome && f.name.isSome

theorem unmarked_of_findAttribute (h : findAttribute mark f.attributes = none) :
    unmarked f = f := by
  have hattributes : stripAttribute mark f.attributes = f.attributes := by
    refine List.filter_eq_self.2 fun a ha => ?_
    simpa using List.find?_eq_none.1 h a ha
  rw [unmarked, hattributes]

/-- **Reordered fields print the same without their marks.** -/
theorem tokens_unmarked (h : Field.Reordered f g) :
    (unmarked f).tokens.unplaced = (unmarked g).tokens.unplaced := by
  have hattributes (as : List Attribute) : Tokens.unplaced (as.flatMap (·.tokens)) =
      (as.map Attribute.unplaced).flatMap (·.tokens) := by
    simp only [Tokens.unplaced_flatMap, List.flatMap_map, Attribute.tokens_unplaced]
  have hname : Tokens.unplaced ((f.name.map fun n => n.tokens ++ op ":").getD []) =
      Tokens.unplaced ((g.name.map fun n => n.tokens ++ op ":").getD []) := by
    obtain ⟨hf, hg⟩ | ⟨n, m, hf, hg, hnm⟩ := map_eq_map_cases h.name
    · rw [hf, hg]
    · simp only [hf, hg, Option.map_some, Option.getD_some, Tokens.unplaced_append,
        Ident.tokens_congr hnm]
  simp only [Field.tokens, unmarked, Tokens.unplaced_append, hattributes, h.attributes, h.vis,
    h.ty, hname]

theorem leaves_of_reordered (h : Field.Reordered f g) : leaves f = leaves g := by
  have hname := congrArg Option.isSome h.name
  rw [Option.isSome_map, Option.isSome_map] at hname
  unfold leaves
  rw [hname]
  obtain ⟨ha, hb⟩ | ⟨a, b, ha, hb, -⟩ := rel_cases h.lists
  · rw [ha, hb]
  · rw [ha, hb]
    rfl

theorem isSome_of_ofField? {found : Option StoredField} (h : ofField? store f = .ok found) :
    found.isSome = leaves f := by
  unfold ofField? at h
  unfold leaves
  split at h
  next a name ha hname =>
    obtain ⟨l, -, h⟩ := except_bind_eq_ok.1 h
    obtain ⟨stored, -, h⟩ := except_bind_eq_ok.1 h
    cases h
    rw [ha, hname]
    rfl
  next hnone =>
    cases h
    cases ha : findAttribute mark f.attributes with
    | none => rfl
    | some a =>
      cases hname : f.name with
      | none => rfl
      | some name => exact absurd hname (hnone a name ha)

end StoredField

namespace StoredAccess

open StoredField

variable {store : Expr} {runtime : Path} {fs gs : List Field} {s t : StructItem}

theorem forall₂_of_mapM {found : List (Option StoredField)}
    (h : fs.mapM (ofField? store) = .ok found) :
    List.Forall₂ (fun f stored => stored.isSome = leaves f) fs found := by
  induction fs generalizing found with
  | nil =>
    cases h
    exact .nil
  | cons f rest ih =>
    rw [List.mapM_cons] at h
    obtain ⟨stored, hstored, h⟩ := except_bind_eq_ok.1 h
    obtain ⟨others, hothers, h⟩ := except_bind_eq_ok.1 h
    cases h
    exact .cons (isSome_of_ofField? hstored) (ih hothers)

theorem kept_eq {found : List (Option StoredField)}
    (h : List.Forall₂ (fun f stored => stored.isSome = leaves f) fs found) :
    ((fs.zip found).filterMap fun (f, stored) => if stored.isNone then some f else none) =
      fs.filter (!leaves ·) := by
  induction h with
  | nil => rfl
  | @cons f stored fs found hleaves _ ih =>
    rw [List.zip_cons_cons, List.filterMap_cons, ih]
    cases stored <;> simp [← hleaves]

/-- **Fields stay if they do not leave**, and the comma behind the last one is there if the last
field leaves. -/
theorem divide_eq_ok {found : List (Option StoredField)}
    (h : fs.mapM (ofField? store) = .ok found) (trailing : Bool) :
    divide store fs trailing = .ok (.named (fs.filter (!leaves ·))
      (trailing || (fs.map leaves).getLast?.getD false), found.filterMap id) := by
  have hall := forall₂_of_mapM h
  have hleaves : fs.map leaves = found.map Option.isSome :=
    map_eq_map_of_forall₂ hall fun _ _ hfound => hfound.symm
  unfold divide
  rw [h]
  change Except.ok (_, _) = _
  rw [kept_eq hall, hleaves, List.getLast?_map]
  cases found.getLast? <;> rfl

/-- Fields that have no marks print the same as their reordering. -/
theorem map_tokens_of_reordered (h : List.Forall₂ Field.Reordered fs gs)
    (hf : ∀ f ∈ fs, findAttribute mark f.attributes = none) :
    (fs.map Field.tokens).map Tokens.unplaced = (gs.map Field.tokens).map Tokens.unplaced := by
  induction h with
  | nil => rfl
  | @cons f g fs gs hfg _ ih =>
    obtain ⟨ha, htail⟩ := List.forall_mem_cons.1 hf
    have hb : findAttribute mark g.attributes = none := by
      obtain ⟨-, hb⟩ | ⟨a, b, ha', -, -⟩ := rel_cases hfg.lists
      · exact hb
      · exact absurd (ha.symm.trans ha') nofun
    have hhead := tokens_unmarked hfg
    rw [unmarked_of_findAttribute ha, unmarked_of_findAttribute hb] at hhead
    simp only [List.map_cons, hhead, ih htail]

/-- How fields are laid out and what they print, without places. -/
def printed (fs : Fields) : FieldsShape × Tokens := (fs.shape, fs.tokens.unplaced)

theorem printed_named {trailing : Bool}
    (h : (fs.map Field.tokens).map Tokens.unplaced = (gs.map Field.tokens).map Tokens.unplaced) :
    printed (.named fs trailing) = printed (.named gs trailing) := by
  simp only [printed, Fields.shape, Fields.tokens, Tokens.unplaced_brace,
    Tokens.unplaced_separated, h]

theorem printed_positional {trailing : Bool}
    (h : (fs.map Field.tokens).map Tokens.unplaced = (gs.map Field.tokens).map Tokens.unplaced) :
    printed (.positional fs trailing) = printed (.positional gs trailing) := by
  simp only [printed, Fields.shape, Fields.tokens, Tokens.unplaced_paren,
    Tokens.unplaced_separated, h]

/-- The fields that stay, as they print, and the accessors of those that leave. -/
def divided (runtime : Path) (d : Fields × List StoredField) :
    (FieldsShape × Tokens) × List Tokens :=
  (printed d.1, d.2.map (accessors runtime))

/-- **Reordered fields are divided alike**, if they have names. -/
theorem divide_of_reordered (runtime : Path) (h : List.Forall₂ Field.Reordered fs gs)
    (hnamed : ∀ f ∈ fs, f.name.isSome = true) (trailing : Bool) :
    placeless (divided runtime) (divide store fs trailing) =
      placeless (divided runtime) (divide store gs trailing) := by
  have heach := placeless_mapM (h.imp fun _ _ => ofField?_of_reordered store runtime)
  obtain ⟨e, e', h₁, h₂, hcause⟩ | ⟨found₁, found₂, h₁, h₂, hfound⟩ := placeless_cases heach
  · unfold divide
    rw [h₁, h₂]
    exact congrArg Except.error hcause
  · have hleaves : fs.map leaves = gs.map leaves :=
      map_eq_map_of_forall₂ h fun _ _ => leaves_of_reordered
    have hstay : List.Forall₂ Field.Reordered (fs.filter (!leaves ·)) (gs.filter (!leaves ·)) :=
      List.rel_filter (fun f g hfg => by simp only [leaves_of_reordered hfg]) h
    -- a field that stays has a name, so it stays for having no mark
    have hkept := map_tokens_of_reordered hstay fun f hf => by
      obtain ⟨hmem, hleaves⟩ := List.mem_filter.1 hf
      simpa [leaves, hnamed f hmem] using hleaves
    have hstored : (found₁.filterMap id).map (accessors runtime) =
        (found₂.filterMap id).map (accessors runtime) := by
      have hids := congrArg (List.filterMap id) hfound
      simpa only [List.filterMap_map, List.map_filterMap, Function.comp_def, id] using hids
    rw [divide_eq_ok h₁, divide_eq_ok h₂, placeless_ok, placeless_ok, divided, divided, hleaves,
      hstored, printed_named hkept]

theorem divideFields_of_reordered (runtime : Path) {fields fields' : Fields}
    (h : Fields.Reordered fields fields') (hnamed : fields.Named) :
    placeless (divided runtime) (divideFields store fields) =
      placeless (divided runtime) (divideFields store fields') := by
  cases h with
  | named each trailing => exact divide_of_reordered runtime each (hnamed rfl) trailing
  | positional each trailing =>
    have hmarks := findSome?_rel each fun _ _ hfg => hfg.lists
    unfold divideFields
    dsimp only
    obtain ⟨h₁, h₂⟩ | ⟨a, b, h₁, h₂, -⟩ := rel_cases hmarks
    · have hprinted := map_tokens_of_reordered each (List.findSome?_eq_none_iff.1 h₁)
      rw [h₁, h₂, placeless_ok, placeless_ok, divided, divided, printed_positional hprinted]
    · rw [h₁, h₂]
      rfl
  | unit => rfl

/-! ## Structs -/

/-- What a struct prints behind its parameters. -/
def behindParams (shape : FieldsShape) (fields clause : Tokens) : Tokens :=
  match shape with
  | .named => clause ++ fields
  | .unnamed => fields ++ clause ++ op ";"
  | .unit => clause ++ op ";"

theorem tokens_eq (s : StructItem) (fields : Fields) :
    StructItem.tokens { s with fields } =
      outerAttributes s.attributes ++ s.vis.tokens ++ kw "struct" ++ s.name.tokens ++
        s.generics.declared ++ behindParams fields.shape fields.tokens s.generics.whereTokens := by
  cases fields <;> rfl

theorem unplaced_behindParams (shape : FieldsShape) (fields clause : Tokens) :
    (behindParams shape fields clause).unplaced =
      behindParams shape fields.unplaced clause.unplaced := by
  cases shape <;> simp only [behindParams, Tokens.unplaced_append] <;> rfl

/-- **Structs that are the same up to their fields print the same** around fields that do. -/
theorem tokens_of_sameHead (h : StructItem.SameHead s t) {fields fields' : Fields}
    (hfields : printed fields = printed fields') :
    Tokens.unplaced (StructItem.tokens { s with fields }) =
      Tokens.unplaced (StructItem.tokens { t with fields := fields' }) := by
  obtain ⟨hshape, htokens⟩ := Prod.mk.inj hfields
  simp only [tokens_eq, Tokens.unplaced_append, unplaced_behindParams, h.attributes, h.vis,
    Ident.tokens_congr h.name, h.declared, h.clause, hshape, htokens]

/-- **A reordered struct gets the same accessors.** -/
theorem of_of_reordered (store : Expr) (runtime : Path) (h : s.Reordered t)
    (hnamed : s.fields.Named) :
    placeless (Tokens.unplaced ∘ StoredAccess.tokens) (StoredAccess.of s runtime store) =
      placeless (Tokens.unplaced ∘ StoredAccess.tokens) (StoredAccess.of t runtime store) := by
  unfold StoredAccess.of
  refine placeless_bind (divideFields_of_reordered runtime h.fields hnamed) ?_
  rintro ⟨fields, stored⟩ ⟨fields', stored'⟩ hdivided
  obtain ⟨hprinted, haccessors⟩ := Prod.mk.inj hdivided
  have hempty : stored.isEmpty = stored'.isEmpty := by
    simpa only [List.isEmpty_map] using congrArg List.isEmpty haccessors
  have hflat (fields : List StoredField) : Tokens.unplaced (fields.flatMap fun f =>
      f.getterTokens runtime ++ f.setterTokens runtime) =
        (fields.map (accessors runtime)).flatten := Tokens.unplaced_flatMap _ _
  dsimp only
  rw [hempty]
  split
  · rfl
  · refine congrArg Except.ok ?_
    simp only [Function.comp_apply, StoredAccess.tokens, implementation, Tokens.unplaced_append,
      Tokens.unplaced_brace, tokens_of_sameHead h.toSameHead hprinted, hflat, haccessors,
      h.implemented, h.applied, h.clause, Ident.tokens_congr h.name]

/-- **A struct and its reordering are expanded alike**: to the same tokens, or to the same failure,
and with the same reports. -/
theorem expand_of_reordered {item₁ item₂ : Tokens} (h₁ : Item.parse item₁ = .ok (.struct s))
    (h₂ : Item.parse item₂ = .ok (.struct t)) (h : s.Reordered t) (c : Config) (args : Tokens) :
    (expand c args item₁).unplaced Tokens.unplaced =
      (expand c args item₂).unplaced Tokens.unplaced := by
  rw [expand, expand, (carriesOut_inContext c args item₁).fresh_eq,
    (carriesOut_inContext c args item₂).fresh_eq, h₁, h₂]
  refine Outcome.unplaced_bind_right fun list => ?_
  refine Outcome.unplaced_bind_right fun _ => ?_
  refine Outcome.unplaced_bind_right fun runtime => ?_
  refine Outcome.unplaced_bind_right fun store => ?_
  rw [Outcome.liftM_ok_bind, Outcome.liftM_ok_bind]
  have haccess := of_of_reordered store runtime h (named_of_parse h₁)
  refine Outcome.unplaced_bind (Outcome.unplaced_liftM haccess) fun access₁ access₂ htokens => ?_
  refine Outcome.unplaced_bind (Outcome.unplaced_log _ _ _ _ _ _) fun _ _ _ => ?_
  exact Outcome.unplaced_pure htokens

/-- **A struct and its reordering print the same without their marks.** -/
theorem withoutMarks_of_reordered {item₁ item₂ : Tokens} (h₁ : Item.parse item₁ = .ok (.struct s))
    (h₂ : Item.parse item₂ = .ok (.struct t)) (h : s.Reordered t) :
    (withoutMarks item₁).unplaced = (withoutMarks item₂).unplaced := by
  have hfields : printed (s.fields.map unmarked) = printed (t.fields.map unmarked) := by
    have heach {fs gs : List Field} (each : List.Forall₂ Field.Reordered fs gs) :
        ((fs.map unmarked).map Field.tokens).map Tokens.unplaced =
          ((gs.map unmarked).map Field.tokens).map Tokens.unplaced := by
      simp only [List.map_map]
      exact map_eq_map_of_forall₂ each fun _ _ => tokens_unmarked
    have hall := h.fields
    generalize s.fields = fields, t.fields = fields' at hall ⊢
    cases hall with
    | named each trailing => exact printed_named (heach each)
    | positional each trailing => exact printed_positional (heach each)
    | unit => rfl
  unfold withoutMarks
  rw [parseStruct_of_parse h₁, parseStruct_of_parse h₂]
  exact tokens_of_sameHead h.toSameHead hfields

end StoredAccess

end DeclSynth
