import DeclSynth.Proofs.StoredFields.Agreement
import DeclSynth.Proofs.StoredFields.Literal
import Mathlib.Logic.Function.Basic

/-!
# What copy methods do

The body of `copy` sets the stored fields first and the others behind them, so each field
once, if not in declaration order (`CopyMethods.read_copyBody`). The method of a field sets
this one and takes all others from `self` (`CopyMethods.call_wither`). As functions of
records the two agree (`CopyMethods.Laws.copyOne`), and methods of two fields commute.
The names of the methods are apart if those of the fields are (`expand_copies`).
-/

namespace DeclSynth

open Sealed.Code (isComma Open)

variable {α β : Type}

theorem StructItem.HasNamedFields.laidOut {s : StructItem} (hs : s.HasNamedFields) :
    s.fields.LaidOut where
  named _ := hs.named
  unnamed h := by
    rw [hs.shape] at h
    cases h

/-! ## Changes of records -/

/-- A record with all values changed. -/
def Record.map (change : α → β) (r : Record α) : Record β := fun key =>
  (r key).map (Cell.map change)

/-- A record with one field set. -/
def Record.set (r : Record α) (key : FieldKey) (a : α) : Record α :=
  Function.update r key (some (.held a))

theorem Record.set_set (r : Record α) (key : FieldKey) (a b : α) :
    (r.set key a).set key b = r.set key b :=
  Function.update_idem _ _ _

theorem Record.set_comm {key key' : FieldKey} (h : key ≠ key') (r : Record α) (a b : α) :
    (r.set key a).set key' b = (r.set key' b).set key a :=
  Function.update_comm h _ _ _

theorem Record.setAll_singleton (r : Record α) (text : String) (a : α) :
    r.setAll [(text, .held a)] = r.set (.name text) a := by
  funext key
  cases key with
  | place n => rfl
  | name other =>
    rw [Record.setAll, Record.set, List.lookup_cons]
    by_cases hsame : other = text
    · rw [hsame, Function.update_self, beq_self_eq_true]
      rfl
    · have hkey : FieldKey.name other ≠ .name text := fun h => hsame (FieldKey.name.inj h)
      rw [Function.update_of_ne hkey, beq_eq_false_iff_ne.2 hsame]
      rfl

namespace Fields

variable {fs : Fields} {f : BoundField} {values : FieldKey → α}

theorem map_record (change : α → β) :
    (fs.record values).map change = fs.record (change ∘ values) := by
  funext key
  rw [Record.map, record, record, Option.map_map]
  congr 1
  funext f
  rw [Function.comp_apply, BoundField.cell, BoundField.cell]
  cases f.field.isStored <;> rfl

/-- A record with a stored field set is that of the changed values. -/
theorem set_record (hdistinct : fs.keys.Nodup) (hf : f ∈ fs.stored) (a : α) :
    (fs.record values).set f.key a = fs.record (Function.update values f.key a) := by
  obtain ⟨hbound, hstored⟩ := mem_stored.1 hf
  funext key
  by_cases hkey : key = f.key
  · rw [hkey, Record.set, Function.update_self, record_key hdistinct hbound, BoundField.cell,
      if_pos hstored, Function.update_self]
  · rw [Record.set, Function.update_of_ne hkey, record, record]
    cases hfound : fs.bound.find? (·.key == key) with
    | none => rfl
    | some g =>
      have hg : g.key = key := by simpa using List.find?_some hfound
      rw [Option.map_some, Option.map_some, BoundField.cell, BoundField.cell, hg,
        Function.update_of_ne hkey]

end Fields

namespace CopyMethods

variable {item : Tokens} {s : StructItem} {fs : Fields} {f g : BoundField} {sc : Scope α}

/-! ## The body of `copy` -/

/-- What `copy` sets a field to. -/
def source (f : BoundField) : Source :=
  if f.field.isStored then .orClone f.binding.text f.binding.text else .marker

/-- How `copy` sets a field. -/
def pieceTokens (f : BoundField) : Tokens :=
  if f.field.isStored then storedTokens f else markerTokens f

/-- The fields in the order in which `copy` sets them. -/
def order (fs : Fields) : List BoundField := fs.stored ++ fs.typeLevel

theorem order_perm (fs : Fields) : (order fs).Perm fs.bound :=
  fs.stored_append_typeLevel_perm

theorem map_pieceTokens (fs : Fields) : (order fs).map pieceTokens =
    fs.stored.map storedTokens ++ fs.typeLevel.map markerTokens := by
  have hstored : fs.stored.map pieceTokens = fs.stored.map storedTokens :=
    List.map_congr_left fun f hf => if_pos (Fields.mem_stored.1 hf).2
  have hmarker : fs.typeLevel.map pieceTokens = fs.typeLevel.map markerTokens :=
    List.map_congr_left fun f hf => if_neg (Fields.mem_typeLevel.1 hf).2
  rw [order, List.map_append, hstored, hmarker]

theorem readInit_pieceTokens (hmember : f.member = .named f.binding) :
    readInit (pieceTokens f) = some (f.binding.text, source f) := by
  unfold pieceTokens source storedTokens markerTokens
  rw [hmember]
  cases f.field.isStored <;> rfl

theorem open_pieceTokens (hmember : f.member = .named f.binding) :
    Open isComma (pieceTokens f) := by
  unfold pieceTokens storedTokens markerTokens
  rw [hmember]
  cases f.field.isStored <;>
    simp [FieldMember.tokens, absolute, op, joined, kw, paren, Ident.tokens, isComma]

/-- **The body of `copy` is read.** -/
theorem read_copyBody (hs : s.HasNamedFields) : Literal.read (of s).copyBody =
    some (.named ((order s.fields).map fun f => (f.binding.text, source f)) false) := by
  have hmember : ∀ f ∈ order s.fields, f.member = .named f.binding := fun f hf =>
    Fields.member_of_named hs.laidOut.named hs.shape ((order_perm s.fields).mem_iff.1 hf)
  have hpieces : ∀ p ∈ (order s.fields).map pieceTokens, Open isComma p := by
    intro p hp
    obtain ⟨f, hf, rfl⟩ := List.mem_map.1 hp
    exact open_pieceTokens (hmember f hf)
  rw [map_pieceTokens] at hpieces
  have hcut : cut [] (eachWithComma (s.fields.stored.map storedTokens) ++
      eachWithComma (s.fields.typeLevel.map markerTokens)) = (order s.fields).map pieceTokens := by
    -- the markers stand behind the stored fields, and a comma stands behind each piece
    have hmarkers := cut_eachWithComma
      (fun p hp => hpieces p (List.mem_append_right _ hp)) []
    rw [List.append_nil] at hmarkers
    rw [cut_eachWithComma fun p hp => hpieces p (List.mem_append_left _ hp), hmarkers,
      map_pieceTokens]
    exact congrArg _ (List.append_nil _)
  exact Literal.read_named hcut fun f hf => readInit_pieceTokens (hmember f hf)

/-! ## The value of `copy` -/

/-- The parameters of `copy`, each bound to the option of its field. -/
def options (fs : Fields) (option : FieldKey → Option α) : List (String × Binding α) :=
  fs.stored.map fun f => (f.binding.text, .optional (option f.key))

/-- The values of a copy: the given ones, and clones for the others. -/
def copied (clone : α → α) (option : FieldKey → Option α) (values : FieldKey → α) : FieldKey → α :=
  fun key => (option key).getD (clone (values key))

/-- **A field is set to its option**, or else to a clone. -/
theorem cell?_source {option : FieldKey → Option α} {values : FieldKey → α}
    (hs : s.HasNamedFields) (hdistinct : s.fields.keys.Nodup)
    (hparams : sc.params = options s.fields option)
    (hself : sc.self? = some (s.fields.record values)) (hf : f ∈ s.fields.bound) :
    (source f).cell? sc = some (f.cell (copied sc.clone option values)) := by
  have hkey : f.key = .name f.binding.text := Fields.key_of_named hs.laidOut.named hs.shape hf
  unfold source BoundField.cell
  cases hstored : f.field.isStored with
  | false => rfl
  | true =>
    have hmem : f ∈ s.fields.stored := Fields.mem_stored.2 ⟨hf, hstored⟩
    have hlookup : sc.params.lookup f.binding.text = some (.optional (option f.key)) := by
      rw [hparams, options]
      exact lookup_map_key (Fields.nodup_storedParameters hs.laidOut hdistinct) hmem
        fun f => Binding.optional (option f.key)
    change (Source.orClone f.binding.text f.binding.text).cell? sc =
      some (.held (copied sc.clone option values f.key))
    rw [Source.cell?, hlookup, copied]
    cases option f.key with
    | some a => rfl
    | none =>
      -- what `self` holds in a stored field is a value, which has a clone
      dsimp only
      rw [hself, Option.bind_some, ← hkey, Fields.record_key hdistinct hf, BoundField.cell,
        if_pos hstored]
      rfl

/-- **The body of `copy` yields the record of the copied values.** -/
theorem evaluate_copyBody {option : FieldKey → Option α} {values : FieldKey → α}
    (hs : s.HasNamedFields) (hdistinct : s.fields.keys.Nodup)
    (hparams : sc.params = options s.fields option)
    (hself : sc.self? = some (s.fields.record values)) :
    (Literal.named ((order s.fields).map fun f => (f.binding.text, source f)) false).evaluate sc =
      some (s.fields.record (copied sc.clone option values)) := by
  have hperm := order_perm s.fields
  have hnames : (sc.params.map (·.1)).Nodup := by
    rw [hparams, options, List.map_map]
    exact Fields.nodup_storedParameters hs.laidOut hdistinct
  have htexts : ((order s.fields).map (·.binding.text)).Nodup :=
    (hperm.map _).nodup_iff.2 (Fields.nodup_parameters hs.laidOut hdistinct)
  have hcells : ∀ f ∈ order s.fields,
      (source f).cell? sc = some (f.cell (copied sc.clone option values)) := fun f hf =>
    cell?_source hs hdistinct hparams hself (hperm.mem_iff.1 hf)
  have hkeys : ∀ f ∈ s.fields.bound, f.key = .name f.binding.text := fun f hf =>
    Fields.key_of_named hs.laidOut.named hs.shape hf
  rw [← Fields.setAll_eq_record hdistinct hkeys hperm]
  exact Literal.evaluate_named hnames htexts hcells rfl

/-- **Each option is used once**, in the order of the parameters. -/
theorem parameters_copyBody (fs : Fields) :
    (Literal.named ((order fs).map fun f => (f.binding.text, source f)) false).parameters =
      fs.stored.map (·.binding.text) := by
  have hstored : fs.stored.filterMap (fun f => (source f).parameter?) =
      fs.stored.map (·.binding.text) := by
    rw [← List.filterMap_eq_map]
    refine List.filterMap_congr fun f hf => ?_
    rw [source, if_pos (Fields.mem_stored.1 hf).2]
    rfl
  have hmarker : fs.typeLevel.filterMap (fun f => (source f).parameter?) = [] := by
    refine List.filterMap_eq_nil_iff.2 fun f hf => ?_
    rw [source, if_neg (Fields.mem_typeLevel.1 hf).2]
    rfl
  rw [Literal.parameters, Literal.sources, List.map_map, List.filterMap_map]
  change (order fs).filterMap (fun f => (source f).parameter?) = _
  rw [order, List.filterMap_append, hstored, hmarker, List.append_nil]

/-! ## The methods of fields -/

/-- **The method of a field sets this one** and takes all others from `self`. -/
theorem call_wither (hs : s.HasNamedFields) (hf : f ∈ s.fields.bound) (clone : α → α) (a : α)
    (r : Record α) :
    f.field.wither.call ⟨[(f.binding.text, .given a)], some r, clone⟩ = some (r.set f.key a) := by
  have hname := Fields.name_of_named hs.laidOut.named hs.shape hf
  have hkey := Fields.key_of_named hs.laidOut.named hs.shape hf
  have hread : Literal.read f.field.wither.body =
      some (.named [(f.binding.text, .variable f.binding.text)] true) := by
    unfold Field.wither Field.nameTokens
    rw [hname]
    rfl
  have hparams : ([(f.binding.text, Binding.given a)].map (·.1)).Nodup := List.nodup_singleton _
  have hcell : ∀ g ∈ [f], (Source.variable g.binding.text).cell?
      ⟨[(f.binding.text, .given a)], some r, clone⟩ = some (.held a) := by
    intro g hg
    rw [List.mem_singleton.1 hg, Source.cell?, List.lookup_cons_self]
  have hself : (if true then some r else some .empty) = some r := rfl
  have htext : ([f].map (·.binding.text)).Nodup := List.nodup_singleton _
  rw [FnForm.call, hread, Option.bind_some, hkey, ← Record.setAll_singleton]
  exact Literal.evaluate_named hparams htext hcell hself

/-! ## Laws -/

/-- What `copy` yields for a value, given the options of the stored fields. -/
def copyOn (fs : Fields) (copy : FnForm) (clone : α → α) (option : FieldKey → Option α)
    (r : Record α) : Option (Record α) :=
  copy.call ⟨options fs option, some r, clone⟩

/-- What the method of a field yields for a value, given another one for the field. -/
def replaceOn (wither : BoundField → FnForm) (clone : α → α) (f : BoundField) (a : α)
    (r : Record α) : Option (Record α) :=
  (wither f).call ⟨[(f.binding.text, .given a)], some r, clone⟩

/-- The option of one field alone. -/
def only (key : FieldKey) (a : α) : FieldKey → Option α :=
  Function.update (fun _ => none) key (some a)

/-- What `copy` and the methods of fields are for a struct. -/
structure Laws (s : StructItem) (copy : FnForm) (wither : BoundField → FnForm) : Prop where
  /-- `copy` has an option for each stored field. -/
  copyParams : copy.params = op "&" ++ kw "self" ++ op "," ++
    commas (s.storedFields.map Field.optionalTokens)
  /-- It sets every field once, and uses every option once. -/
  copyBody : ∃ l, Literal.read copy.body = some l ∧ l.isWhole ∧ l.keys.Perm s.fields.keys ∧
    l.parameters = s.fields.stored.map (·.binding.text)
  /-- It yields what is given, and clones for the others. -/
  copies : ∀ {α : Type} (clone : α → α) (option : FieldKey → Option α) (values : FieldKey → α),
    copyOn s.fields copy clone option (s.fields.record values) =
      some (s.fields.record fun key => (option key).getD (clone (values key)))
  /-- The method of a field takes a value for it. -/
  witherParams : ∀ f ∈ s.fields.stored, (wither f).params =
    kw "self" ++ op "," ++ f.binding.tokens ++ op ":" ++ f.field.ty.tokens
  /-- It changes this field only. -/
  replaces : ∀ f ∈ s.fields.stored, ∀ {α : Type} (clone : α → α) (a : α) (r : Record α),
    replaceOn wither clone f a r = some (r.set f.key a)
  /-- The last value is kept. -/
  lastWins : ∀ f ∈ s.fields.stored, ∀ {α : Type} (clone : α → α) (a b : α) (r : Record α),
    (replaceOn wither clone f a r).bind (replaceOn wither clone f b) = replaceOn wither clone f b r
  /-- Methods of two fields commute. -/
  commute : ∀ f ∈ s.fields.stored, ∀ g ∈ s.fields.stored, f ≠ g →
    ∀ {α : Type} (clone : α → α) (a b : α) (r : Record α),
      (replaceOn wither clone f a r).bind (replaceOn wither clone g b) =
        (replaceOn wither clone g b r).bind (replaceOn wither clone f a)
  /-- `copy` with one value does what the method of the field does, as far as clones are not told
  from what they are clones of. -/
  copyOne : ∀ f ∈ s.fields.stored, ∀ {α β : Type} (clone : α → α) (look : α → β),
    (∀ a, look (clone a) = look a) → ∀ (a : α) (values : FieldKey → α),
      (copyOn s.fields copy clone (only f.key a) (s.fields.record values)).map (Record.map look) =
        (replaceOn wither clone f a (s.fields.record values)).map (Record.map look)
  /-- The names are apart if those of the fields are. -/
  names : (s.fields.toList.filterMap fun f => f.name.map Ident.plainText).Nodup →
    ((copy :: s.fields.stored.map wither).map fun fn => Ident.dropRaw fn.name).Nodup

/-- The values that a copy with one value is of. -/
theorem look_copied_only {clone : α → α} {look : α → β} (hlook : ∀ a, look (clone a) = look a)
    (key : FieldKey) (a : α) (values : FieldKey → α) :
    look ∘ copied clone (only key a) values = look ∘ Function.update values key a := by
  funext k
  rw [Function.comp_apply, Function.comp_apply, copied, only]
  by_cases hk : k = key
  · rw [hk, Function.update_self, Function.update_self, Option.getD_some]
  · rw [Function.update_of_ne hk, Function.update_of_ne hk, Option.getD_none, hlook]

/-- What stands before the name of a field in the name of its method. -/
def witherPrefix : String := "with_"

/-- **The names of the methods are apart.** -/
theorem nodup_names (hs : s.HasNamedFields)
    (hdistinct : (s.fields.toList.filterMap fun f => f.name.map Ident.plainText).Nodup) :
    (Ident.dropRaw "copy" ::
      s.storedFields.map fun f => Ident.dropRaw f.wither.name).Nodup := by
  have hprefix : witherPrefix.toList = 'w' :: "ith_".toList := rfl
  have hnames : s.storedFields.map (fun f => Ident.dropRaw f.wither.name) =
      (s.storedFields.filterMap fun f => f.name.map Ident.plainText).map (witherPrefix ++ ·) := by
    rw [List.map_filterMap, ← List.filterMap_eq_map]
    refine List.filterMap_congr fun f hf => ?_
    obtain ⟨name, hname⟩ := Option.isSome_iff_exists.1 (hs.named f (List.mem_filter.1 hf).1)
    have hwither : f.wither.name = witherPrefix ++ name.plainText := by
      rw [Field.wither, hname]
      rfl
    rw [Function.comp_apply, hwither, Ident.dropRaw_append hprefix (by decide), hname]
    rfl
  have hstored : (s.storedFields.filterMap fun f => f.name.map Ident.plainText).Nodup :=
    hdistinct.sublist (List.filter_sublist.filterMap _)
  rw [hnames, List.nodup_cons]
  constructor
  · intro hcopy
    obtain ⟨name, -, hsame⟩ := List.mem_map.1 hcopy
    have hchars := congrArg String.toList hsame
    rw [String.toList_append] at hchars
    cases hchars
  · exact hstored.map fun a b h => by simpa using h

/-- `copy` as it is written. -/
def copyForm (s : StructItem) : FnForm :=
  ⟨"copy", op "&" ++ kw "self" ++ op "," ++ commas (s.storedFields.map Field.optionalTokens),
    (of s).copyBody⟩

/-- Every field is set once. -/
theorem keys_copyBody (hs : s.HasNamedFields) :
    (Literal.named ((order s.fields).map fun f => (f.binding.text, source f)) false).keys.Perm
      s.fields.keys := by
  have hkeys : (order s.fields).map (fun f => FieldKey.name f.binding.text) =
      (order s.fields).map BoundField.key := by
    refine List.map_congr_left fun f hf => ?_
    have hbound := (order_perm s.fields).mem_iff.1 hf
    exact (Fields.key_of_named hs.laidOut.named hs.shape hbound).symm
  rw [Literal.keys, List.map_map]
  change ((order s.fields).map fun f => FieldKey.name f.binding.text).Perm _
  rw [hkeys]
  exact (order_perm s.fields).map _

theorem copyOn_copyForm (hs : s.HasNamedFields) (hdistinct : s.fields.keys.Nodup)
    (clone : α → α) (option : FieldKey → Option α) (values : FieldKey → α) :
    copyOn s.fields (copyForm s) clone option (s.fields.record values) =
      some (s.fields.record (copied clone option values)) := by
  rw [copyOn, FnForm.call, copyForm, read_copyBody hs]
  exact evaluate_copyBody hs hdistinct rfl rfl

theorem replaceOn_wither (hs : s.HasNamedFields) (hf : f ∈ s.fields.stored) (clone : α → α) (a : α)
    (r : Record α) : replaceOn (·.field.wither) clone f a r = some (r.set f.key a) :=
  call_wither hs (Fields.mem_stored.1 hf).1 clone a r

/-- **What is generated obeys the laws.** -/
theorem laws_copyForm (hs : s.HasNamedFields) (hdistinct : s.fields.keys.Nodup) :
    Laws s (copyForm s) (·.field.wither) where
  copyParams := rfl
  copyBody := ⟨_, read_copyBody hs, rfl, keys_copyBody hs, parameters_copyBody s.fields⟩
  copies := copyOn_copyForm hs hdistinct
  witherParams f hf := by
    have hname := Fields.name_of_named hs.laidOut.named hs.shape (Fields.mem_stored.1 hf).1
    simp [Field.wither, Field.declaredTokens, Field.nameTokens, hname]
  replaces _ hf _ := replaceOn_wither hs hf
  lastWins f hf α clone a b r := by
    rw [replaceOn_wither hs hf, Option.bind_some, replaceOn_wither hs hf, replaceOn_wither hs hf,
      Record.set_set]
  commute f hf g hg hne α clone a b r := by
    have hfbound := (Fields.mem_stored.1 hf).1
    have hgbound := (Fields.mem_stored.1 hg).1
    have hkeys : f.key ≠ g.key := fun hkeys =>
      hne (List.inj_on_of_nodup_map hdistinct hfbound hgbound hkeys)
    rw [replaceOn_wither hs hf, replaceOn_wither hs hg, Option.bind_some, Option.bind_some,
      replaceOn_wither hs hg, replaceOn_wither hs hf, Record.set_comm hkeys]
  copyOne f hf α β clone look hlook a values := by
    rw [copyOn_copyForm hs hdistinct, replaceOn_wither hs hf, Fields.set_record hdistinct hf,
      Option.map_some, Option.map_some, Fields.map_record, Fields.map_record,
      look_copied_only hlook]
  names hplain := by
    have hwithers : (s.fields.stored.map (·.field.wither)).map (fun fn => Ident.dropRaw fn.name) =
        s.storedFields.map fun f => Ident.dropRaw f.wither.name := by
      rw [← s.map_field_stored, List.map_map, List.map_map]
      rfl
    rw [List.map_cons, hwithers]
    exact nodup_names hs hplain

/-- **Copying with changes.** A struct with named fields gets `copy` and a method for each stored
field, and nothing else. -/
theorem expand_copies (h : Item.parse item = .ok (.struct s)) (hshape : s.fields.shape = .named)
    (hdistinct : s.fields.keys.Nodup) : ∃ code copy,
      (expand item).result = .ok code ∧
      functionsOf code = some (copy :: s.fields.stored.map (·.field.wither)) ∧
      copy.name = "copy" ∧
      Laws s copy (·.field.wither) := by
  have hs := hasNamedFields_of_parse h hshape
  have hfunctions : functionsOf (of s).tokens =
      some (copyForm s :: s.storedFields.map Field.wither) := functionsOf_copyMethods_eq hs
  rw [← s.map_field_stored, List.map_map] at hfunctions
  exact ⟨_, _, result_expand h hshape, hfunctions, rfl, laws_copyForm hs hdistinct⟩

/-- With a marker between two stored fields, a copy with a new second value clones the first one,
keeps the marker and is what `with_second` yields. -/
theorem expand_copies_mixed : ∃ s code copy withFirst withSecond,
    Item.parse mixedSample = .ok (.struct s) ∧
      (expand mixedSample).result = .ok code ∧
      functionsOf code = some [copy, withFirst, withSecond] ∧
      ["copy", "with_first", "with_second"] = [copy.name, withFirst.name, withSecond.name] ∧
      ∀ (values : FieldKey → Nat) (b : Nat),
        (copy.call ⟨[("first", .optional none), ("second", .optional (some b))],
            some (s.fields.record values), id⟩).map
              (fun r => [r (.name "first"), r (.name "mark"), r (.name "second")]) =
          some [some (.held (values (.name "first"))), some .marker, some (.held b)] ∧
        withSecond.call ⟨[("second", .given b)], some (s.fields.record values), id⟩ =
          some ((s.fields.record values).set (.name "second") b) := by
  have hsample : (structOf? mixedSample).any (fun s =>
      s.fields.shape == .named &&
      s.fields.bound.map
          (fun f => (f.key, f.binding.text, f.field.isStored, f.field.wither.name)) ==
        [(.name "first", "first", true, "with_first"), (.name "mark", "mark", false, "with_mark"),
          (.name "second", "second", true, "with_second")]) = true := by
    decide +kernel
  simp only [Option.any_eq_true, Bool.and_eq_true, beq_iff_eq] at hsample
  obtain ⟨s, hs, hshape, hbound⟩ := hsample
  simp only [List.map_eq_cons_iff, List.map_eq_nil_iff, Prod.mk.injEq] at hbound
  obtain ⟨f, _, hfields, ⟨hkf, htf, hsf, hnf⟩, m, _, rfl, ⟨hkm, htm, hsm, -⟩, g, _, rfl,
    ⟨hkg, htg, hsg, hng⟩, rfl⟩ := hbound
  have hparse := parse_eq_of_structOf? hs
  have hdistinct : s.fields.keys.Nodup := by
    rw [Fields.keys, hfields]
    simp [hkf, hkm, hkg]
  have hstored : s.fields.stored = [f, g] := by
    simp [Fields.stored, hfields, hsf, hsm, hsg]
  obtain ⟨code, copy, hcode, hfunctions, hcopy, hlaws⟩ := expand_copies hparse hshape hdistinct
  rw [hstored] at hfunctions
  refine ⟨s, code, copy, _, _, hparse, hcode, hfunctions, by rw [hcopy, hnf, hng], ?_⟩
  intro values b
  constructor
  · have hcall := hlaws.copies id (only (.name "second") b) values
    have hoptions : options s.fields (only (.name "second") b) =
        [("first", .optional none), ("second", .optional (some b))] := by
      simp [options, hstored, htf, htg, hkf, hkg, only]
    rw [copyOn, hoptions] at hcall
    rw [hcall]
    simp [Fields.record, hfields, hkf, hkm, hkg, BoundField.cell, hsf, hsm, hsg, only]
  · have hcall := hlaws.replaces g (by rw [hstored]; simp) id b (s.fields.record values)
    rw [replaceOn, htg, hkg] at hcall
    exact hcall

end CopyMethods

end DeclSynth
