import DeclSynth.Proofs.StoredFields.Agreement
import DeclSynth.Proofs.StoredFields.Rebuild
import DeclSynth.Proofs.Text.Literal

/-!
# Pairs of accessors

What is generated for the fields that leave a struct is one pair of accessors for each, in
order: a getter and a setter that open the same store and go to it with the same key
(`exists_pair`). Keys that are not given are the names of the fields, so they are apart where
the names are (`nodup_keyText`). With the fields that stay, the pairs account for all fields of
the struct (`expand_accessors`).
-/

namespace DeclSynth

open StoredField (mark spec unmarked keyOf writtenKey keyOf_eq ReadFrom)

/-- A function that goes to a store, as it is written. -/
structure Accessor where
  docs : Tokens
  vis : Visibility
  name : Ident
  params : Tokens
  result : Tokens
  body : Tokens

namespace Accessor

/-- The tokens of the function. -/
def tokens (a : Accessor) : Tokens :=
  a.docs ++ a.vis.tokens ++ kw "fn" ++ a.name.tokens ++ paren a.params ++ a.result ++ brace a.body

/-- What a body begins with: the store is opened. -/
def opening (runtime : Path) (store : Expr) : Tokens :=
  kw "use" ++ runtime.tokens ++ op "::" ++ kw "KeyValueStore" ++ kw "as" ++ kw "_" ++ op ";" ++
    kw "let" ++ kw "store" ++ op "=" ++ op "&" ++ store.tokens ++ op ";"

/-- A call of a method of the store. -/
def call (method arguments : Tokens) : Tokens :=
  kw "store" ++ op "." ++ method ++ paren arguments

/-- The method of the store that reads a value of a type, by the kind of its default. -/
def readMethod (ty : Tokens) : DefaultKind → Tokens
  | .bool => kw "bool"
  | .integer | .constant => kw "decode" ++ op "::" ++ op "<" ++ ty ++ op ">"
  | .text => kw "string"
  | .float => kw "float"

/-- What stands before the store is asked for a value: a text is matched on. -/
def beforeRead : DefaultKind → Tokens
  | .text => kw "match"
  | .bool | .integer | .constant | .float => []

variable (runtime : Path) (store : Expr) (key : Tokens) (f : Field) (kind : DefaultKind)
  (a : Accessor)

/-- Whether a function is a field's getter: it has the documentation, the visibility, the name and
the type of the field, and asks the store for the key. -/
structure Reads : Prop where
  docs : a.docs = (f.attributes.filter (·.isNamed "doc")).flatMap (·.tokens)
  vis : a.vis = f.vis
  name : f.name = some a.name
  params : a.params = op "&" ++ kw "self"
  result : a.result = op "->" ++ f.ty.tokens
  body : ∃ after, a.body = opening runtime store ++
    (beforeRead kind ++ call (readMethod f.ty.tokens kind) key ++ after)

/-- Whether a function is a field's setter: it has the visibility of the field, takes its type and
writes under the key. -/
structure Writes : Prop where
  docs : a.docs = []
  vis : a.vis = f.vis
  name : ∃ name, f.name = some name ∧ a.name.text = "set_" ++ name.plainText
  params : a.params = op "&" ++ kw "self" ++ op "," ++ kw "new_value" ++ op ":" ++ f.ty.tokens
  result : a.result = []
  body : a.body = opening runtime store ++ (kw "let" ++ kw "_" ++ op "=" ++
    call (kw "store") (key ++ op "," ++ op "&" ++ kw "new_value") ++ op ";")

end Accessor

/-! ## Pairs -/

/-- A field, the arguments that its mark gives, the key, the kind of default and the store that
these make, and the two accessors. -/
structure AccessorPair where
  field : Field
  list : ArgumentList
  key : Tokens
  kind : DefaultKind
  store : Expr
  getter : Accessor
  setter : Accessor

namespace AccessorPair

/-- The tokens of the getter and of the setter behind it. -/
def tokens (p : AccessorPair) : Tokens := p.getter.tokens ++ p.setter.tokens

/-- Whether the key is given. -/
def isKeyed (p : AccessorPair) : Bool := (p.list.value? "key").isSome

/-- The text of the key, if it is a literal. -/
def keyText (p : AccessorPair) : Option String :=
  match p.key with
  | [.literal text _] => some (Literal.content text)
  | _ => none

/-- Whether the accessors are those of the field: both go to the store that the arguments give, or
else to the default one, with the key that they give, or else with the field's name. -/
structure Fits (runtime : Path) (default : Expr) (p : AccessorPair) : Prop where
  given : p.field.Gives p.list
  key : ∃ name given, p.field.name = some name ∧ p.list.string "key" = .ok given ∧
    p.key = match given with
      | some (text, span) => [.literal text span]
      | none => str name.text
  kind : (p.list.value? "default_value").bind Expr.defaultKind? = some p.kind
  store : p.store = (p.list.value? "store").getD default
  getter : p.getter.Reads runtime p.store p.key p.field p.kind
  setter : p.setter.Writes runtime p.store p.key p.field

variable {runtime : Path} {store : Expr} {f : Field} {list : ArgumentList} {g : StoredField}

/-- An attribute has one name. -/
theorem isNamed_ne {a : Attribute} {name other : String} (h : a.isNamed name = true)
    (hne : name ≠ other) : a.isNamed other = false := by
  unfold Attribute.isNamed at h ⊢
  rcases hpath : a.path with _ | ⟨i, _ | ⟨j, rest⟩⟩ <;> simp_all

/-- A field's documentation is no mark. -/
theorem docs_unmarked (f : Field) : (unmarked f).attributes.filter (·.isNamed "doc") =
    f.attributes.filter (·.isNamed "doc") := by
  rw [unmarked, stripAttribute, List.filter_filter]
  refine List.filter_congr fun a _ => ?_
  cases hdoc : a.isNamed "doc" with
  | false => rfl
  | true => rw [isNamed_ne hdoc (by decide)]; rfl

/-- **A getter asks for its key first**; what comes after makes a value of the answer. -/
theorem exists_readTokens (g : StoredField) : ∃ after, g.readTokens =
    Accessor.beforeRead g.kind ++
      Accessor.call (Accessor.readMethod g.field.ty.tokens g.kind) g.key ++ after := by
  unfold StoredField.readTokens
  cases g.kind with
  | bool | integer | constant | text => exact ⟨_, rfl⟩
  | float =>
    exact ⟨op "." ++ kw "map" ++
      paren (op "|" ++ kw "value" ++ op "|" ++ kw "value" ++ kw "as" ++ g.field.ty.tokens) ++
        (op "." ++ kw "unwrap_or" ++ paren g.default.tokens), rfl⟩

/-- The getter of a stored field as it is written. -/
def getterOf (runtime : Path) (g : StoredField) : Accessor :=
  ⟨(g.field.attributes.filter (·.isNamed "doc")).flatMap (·.tokens), g.field.vis, g.getter,
    op "&" ++ kw "self", op "->" ++ g.field.ty.tokens, g.openTokens runtime ++ g.readTokens⟩

/-- The setter of a stored field as it is written. -/
def setterOf (runtime : Path) (g : StoredField) : Accessor :=
  ⟨[], g.field.vis, g.setter,
    op "&" ++ kw "self" ++ op "," ++ kw "new_value" ++ op ":" ++ g.field.ty.tokens, [],
    g.openTokens runtime ++ kw "let" ++ kw "_" ++ op "=" ++ kw "store" ++ op "." ++
      kw "store" ++ paren (g.key ++ op "," ++ op "&" ++ kw "new_value") ++ op ";"⟩

/-- **What is read from a field is written as its pair of accessors.** -/
theorem exists_pair (runtime : Path) (h : ReadFrom store f list g) : ∃ p : AccessorPair,
    p.field = f ∧ p.Fits runtime store ∧
      p.tokens = g.getterTokens runtime ++ g.setterTokens runtime := by
  refine ⟨⟨f, list, g.key, g.kind, g.store, getterOf runtime g, setterOf runtime g⟩, rfl, ?_, ?_⟩
  · obtain ⟨after, hread⟩ := exists_readTokens g
    have hkey := h.key
    rw [keyOf_eq] at hkey
    obtain ⟨given, hgiven, hwritten⟩ := except_bind_eq_ok.1 hkey
    have hkind : (list.value? "default_value").bind Expr.defaultKind? = some g.kind := by
      rw [h.default, Option.bind_some, h.kind]
    refine ⟨h.given, ⟨g.getter, given, h.getter, hgiven, ?_⟩, hkind, h.store, ?_, ?_⟩
    · cases given <;> exact (Except.ok.inj hwritten).symm
    · refine ⟨?_, ?_, h.getter, rfl, ?_, after, ?_⟩
      · rw [getterOf, h.field, docs_unmarked]
      · rw [getterOf, h.field, unmarked]
      · rw [getterOf, h.field, unmarked]
      · rw [getterOf, hread, h.field]
        rfl
    · refine ⟨rfl, ?_, ⟨g.getter, h.getter, ?_⟩, ?_, rfl, ?_⟩
      · rw [setterOf, h.field, unmarked]
      · rw [setterOf]
        dsimp only [StoredField.setter, Ident.prefixed]
        rw [String.ofList_append, String.ofList_toList]
      · rw [setterOf, h.field, unmarked]
      · simp [setterOf, Accessor.call, Accessor.opening, StoredField.openTokens]
  · simp [tokens, Accessor.tokens, getterOf, setterOf, StoredField.getterTokens,
      StoredField.setterTokens]

/-- A key that is not given is the name of the field. -/
theorem Fits.keyText_eq {p : AccessorPair} (h : p.Fits runtime store) (hp : p.isKeyed = false) :
    p.keyText = p.field.name.map Ident.text := by
  obtain ⟨name, given, hname, hgiven, hkey⟩ := h.key
  have hvalue : p.list.value? "key" = none := by simpa [isKeyed] using hp
  rw [ArgumentList.string, hvalue] at hgiven
  cases hgiven
  rw [keyText, hkey, hname, Option.map_some]
  exact congrArg some (Literal.content_literal name.text)

/-- **Keys that are not given are apart where the names of the fields are.** -/
theorem nodup_keyText {pairs : List AccessorPair} (h : ∀ p ∈ pairs, p.Fits runtime store)
    (hnames : (pairs.map fun p => p.field.name.map Ident.text).Nodup) :
    ((pairs.filter (!·.isKeyed)).map (·.keyText)).Nodup := by
  have hkeys : (pairs.filter (!·.isKeyed)).map (·.keyText) =
      (pairs.filter (!·.isKeyed)).map fun p => p.field.name.map Ident.text := by
    refine List.map_congr_left fun p hp => ?_
    obtain ⟨hmem, hunkeyed⟩ := List.mem_filter.1 hp
    exact (h p hmem).keyText_eq (by simpa using hunkeyed)
  rw [hkeys]
  exact hnames.sublist (List.filter_sublist.map _)

/-- **What is read from fields is written as their pairs of accessors**, in order. -/
theorem exists_pairs (runtime : Path) {fs : List Field} {stored : List StoredField}
    (h : List.Forall₂ (fun f g => ∃ list, ReadFrom store f list g) fs stored) :
    ∃ pairs : List AccessorPair, pairs.map (·.field) = fs ∧
      (∀ p ∈ pairs, p.Fits runtime store) ∧
      pairs.flatMap tokens =
        stored.flatMap fun g => g.getterTokens runtime ++ g.setterTokens runtime := by
  induction h with
  | nil => exact ⟨[], rfl, List.forall_mem_nil _, by rw [List.flatMap_nil, List.flatMap_nil]⟩
  | cons hread _ ih =>
    obtain ⟨list, hread⟩ := hread
    obtain ⟨p, hfield, hfits, htokens⟩ := exists_pair runtime hread
    obtain ⟨pairs, hfields, hall, hflat⟩ := ih
    refine ⟨p :: pairs, ?_, List.forall_mem_cons.2 ⟨hfits, hall⟩, ?_⟩
    · rw [List.map_cons, hfield, hfields]
    · rw [List.flatMap_cons, List.flatMap_cons, htokens, hflat]

end AccessorPair

/-! ## Expansions -/

namespace StoredAccess

variable {c : Config} {args item out : Tokens} {s : StructItem} {fs : List Field} {trailing : Bool}

/-- **What becomes of the fields of a struct.** Those without a mark stay in it, in order, and come
out of the loop with the commas that it needs; each of the others is left by its pair of accessors,
in order. Keys that are not given are apart. -/
theorem expand_accessors (h : (expand c args item).result = .ok out)
    (hs : Item.parse item = .ok (.struct s)) (hfields : s.fields = .named fs trailing)
    (hnames : (fs.map fun f => f.name.map Ident.text).Nodup) :
    ∃ (x : Expansion c args item out) (kept : Punctuated Field) (pairs : List AccessorPair),
      rebuild x.store (.ofList fs trailing) = .ok ⟨kept, x.access.stored⟩ ∧
      kept.values = fs.filter (!·.isMarked) ∧
      pairs.map (·.field) = fs.filter Field.isMarked ∧
      (kept.values ++ pairs.map (·.field)).Perm fs ∧
      out = StructItem.tokens { s with fields := kept.fields } ++
        implementation s.generics none s.name (pairs.flatMap AccessorPair.tokens) ∧
      (∀ p ∈ pairs, p.Fits x.runtime x.store) ∧
      ((pairs.filter (!·.isKeyed)).map (·.keyText)).Nodup := by
  obtain ⟨x⟩ := exists_expansion h
  have hsubject : x.subject = s := by
    have := x.parse_eq.symm.trans hs
    cases this
    rfl
  obtain ⟨hruntime, fs', trailing', hdivides⟩ := x.divides
  have hsame := hdivides.fields
  rw [hsubject, hfields] at hsame
  cases hsame
  obtain ⟨kept, hrebuild, hvalues, htokens⟩ := exists_kept_of_divide hdivides.divided
  obtain ⟨pairs, hleft, hfits, hpairs⟩ :=
    AccessorPair.exists_pairs x.runtime hdivides.stored
  have hleftNames : (pairs.map fun p => p.field.name.map Ident.text).Nodup := by
    have hmap : pairs.map (fun p => p.field.name.map Ident.text) =
        (fs.filter Field.isMarked).map fun f => f.name.map Ident.text := by
      rw [← hleft, List.map_map]
      rfl
    rw [hmap]
    exact hnames.sublist (List.filter_sublist.map _)
  have hstay : kept.values = fs.filter (!·.isMarked) := by
    rw [hvalues, hdivides.remainder]
    rfl
  refine ⟨x, kept, pairs, hrebuild, hstay, hleft, ?_, ?_, hfits,
    AccessorPair.nodup_keyText hfits hleftNames⟩
  · rw [hstay, hleft]
    exact List.perm_append_comm.trans (List.filter_append_perm Field.isMarked fs)
  · rw [x.out_eq, StoredAccess.tokens, hruntime, hpairs, hdivides.remainder, hsubject, tokens_eq,
      tokens_eq, htokens, hdivides.remainder]
    rfl

/-- `struct Settings { #[stored(default_value = 1)] volume: u32, title: String,
#[stored(default_value = "dark", key = "color")] theme: String }` -/
def settingsSample : Tokens :=
  kw "struct" ++ kw "Settings" ++ brace (
    op "#" ++ bracket (kw "stored" ++ paren (kw "default_value" ++ op "=" ++ lit "1")) ++
      kw "volume" ++ op ":" ++ kw "u32" ++ op "," ++
    kw "title" ++ op ":" ++ kw "String" ++ op "," ++
    op "#" ++ bracket (kw "stored" ++ paren (kw "default_value" ++ op "=" ++ str "dark" ++ op "," ++
      kw "key" ++ op "=" ++ str "color")) ++
      kw "theme" ++ op ":" ++ kw "String")

/-- The field between two marked ones is left, and each of these gets its accessors. -/
theorem expand_accessors_settings : ∃ (out : Tokens) (s : StructItem) (fs : List Field)
    (trailing : Bool) (x : Expansion .default [] settingsSample out) (kept : Punctuated Field)
    (pairs : List AccessorPair), (expand .default [] settingsSample).result = .ok out ∧
      Item.parse settingsSample = .ok (.struct s) ∧ s.fields = .named fs trailing ∧
      rebuild x.store (.ofList fs trailing) = .ok ⟨kept, x.access.stored⟩ ∧
      kept.values.map (·.name.map Ident.text) = [some "title"] ∧
      pairs.map (·.field.name.map Ident.text) = [some "volume", some "theme"] ∧
      ∀ p ∈ pairs, p.Fits x.runtime x.store := by
  obtain ⟨out, hout⟩ := exists_eq_ok_of_isOk
    (x := (expand .default [] settingsSample).result) (by decide +kernel)
  have hsample : (structOf? settingsSample).any (fun s =>
      s.fields.shape == .named &&
      s.fields.toList.map (·.name.map Ident.text) ==
        [some "volume", some "title", some "theme"] &&
      (s.fields.toList.filter (!·.isMarked)).map (·.name.map Ident.text) == [some "title"] &&
      (s.fields.toList.filter Field.isMarked).map (·.name.map Ident.text) ==
        [some "volume", some "theme"]) = true := by
    decide +kernel
  simp only [Option.any_eq_true, Bool.and_eq_true, beq_iff_eq] at hsample
  obtain ⟨s, hs, ⟨⟨hshape, hnames⟩, hstay⟩, hleave⟩ := hsample
  have hparse := parse_eq_of_structOf? hs
  cases hfields : s.fields with
  | named fs trailing =>
    rw [hfields] at hnames hstay hleave
    have hnodup : (fs.map fun f => f.name.map Ident.text).Nodup := by
      change fs.map _ = _ at hnames
      rw [hnames]
      decide
    obtain ⟨x, kept, pairs, hrebuild, hkept, hpairs, -, -, hfits, -⟩ :=
      expand_accessors hout hparse hfields hnodup
    refine ⟨out, s, fs, trailing, x, kept, pairs, hout, hparse, hfields, hrebuild, ?_, ?_, hfits⟩
    · rw [hkept]
      exact hstay
    · have hmap := congrArg (List.map fun f : Field => f.name.map Ident.text) hpairs
      rw [List.map_map] at hmap
      exact hmap.trans hleave
  | positional => simp [hfields, Fields.shape] at hshape
  | unit => simp [hfields, Fields.shape] at hshape

end StoredAccess

end DeclSynth
