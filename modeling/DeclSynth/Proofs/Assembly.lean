import DeclSynth.Proofs.Config.Suffix
import DeclSynth.Proofs.StoredFields.Rebuild
import DeclSynth.Proofs.Syntax.Rereading

/-!
# Generated syntax comes about

Expanders put names together from texts, take lists apart and rebuild them, and read syntax that
they have generated. Each of these can slip for some input of its own: a text may be no name, a list
may lack punctuation, tokens may be no tree (`Slip`). Here all that an expander builds of what it
has read is built with the checks (`assemble`), and comes out as the expander builds it: the names
of bound fields, copy methods, setters and peers, and the lists of bounds, fields and parameters.
-/

namespace DeclSynth

/-- Why a piece of generated syntax does not come about. -/
inductive Slip where
  /-- A text is no name. -/
  | name (fault : NameFault)
  /-- A name is a word that the language keeps for itself. -/
  | reserved (word : String)
  /-- A list lacks punctuation. -/
  | punctuation
  /-- Generated tokens are not the tree that they should be. -/
  | tree (error : SyntaxError)

/-! ## Names -/

namespace Ident

open Config Naming

/-- The name with this text, if there is one that the language does not keep for itself. -/
def assemble (text : String) (span : Span) : Except Slip Ident :=
  match ofText text span with
  | .error fault => .error (.name fault)
  | .ok name => if isReserved text then .error (.reserved text) else .ok name

theorem assemble_eq_ok {text : String} {span : Span} (h : isName text = true)
    (hfree : isReserved text = false) : assemble text span = .ok ⟨text, span, h⟩ := by
  unfold assemble
  rw [ofText_of_isName h, hfree]
  rfl

/-- **A name comes about from its own text** if the language does not keep it. -/
theorem assemble_text (i : Ident) (hfree : isReserved i.text = false) :
    assemble i.text i.span = .ok i :=
  assemble_eq_ok i.valid hfree

/-- A word that the language keeps does not come about. -/
example : (assemble "match" .callSite).isOk = false := by decide +kernel

/-- **A word with a number behind it comes about** where no reserved word begins like the word. -/
theorem assemble_numbered (word : List Char) (isWord : Unicode.isWord word = true)
    (h : ∀ w ∈ reserved, ¬ word <+: w.toList) (n : Nat) (span : Span) :
    assemble (String.ofList word ++ toString n) span = .ok (numbered word isWord n span) := by
  have htext : String.ofList word ++ toString n = (numbered word isWord n span).text :=
    String.ofList_append.symm
  rw [htext]
  exact assemble_text (numbered word isWord n span) <| not_mem_of_prefix h _

/-- **A word with a name behind it comes about** where no reserved word begins like the word,
whatever the name is: the mark of a raw name is dropped. -/
theorem assemble_prefixed (word : List Char) (isWord : Unicode.isWord word = true)
    (h : ∀ w ∈ reserved, ¬ word <+: w.toList) (i : Ident) :
    assemble (String.ofList word ++ i.plainText) i.span = .ok (prefixed word isWord i) := by
  have htext : String.ofList word ++ i.plainText = (prefixed word isWord i).text := by
    rw [append_eq_ofList, String.toList_ofList]
    rfl
  rw [htext]
  exact assemble_text (prefixed word isWord i) <| not_mem_of_prefix h _

example : (assemble ("with_" ++ dropRaw "r#match") .callSite).toOption.map (·.text) =
    some "with_match" := by
  decide +kernel

/-- **A name with identifier characters behind it comes about** where no reserved word ends like
these. -/
theorem exists_assemble_suffixed {suffix : String} (hs : Continues suffix)
    (h : ∀ w ∈ reserved, ¬ suffix.toList <:+ w.toList) (i : Ident) :
    ∃ name, ofText (i.plainText ++ suffix) i.span = .ok name ∧
      assemble (i.plainText ++ suffix) i.span = .ok name := by
  have hname := isName_append_of_isWord i.isWord_plainText hs
  refine ⟨_, ofText_of_isName hname, assemble_eq_ok hname ?_⟩
  rw [append_eq_ofList]
  exact not_mem_of_suffix h _

end Ident

/-! ## Lists -/

namespace Punctuated

variable {α : Type} {p : Punctuated α} {values : List α} {trailing : Bool} {value : α}

/-- Puts a value behind all others, behind a comma if none closes the list. -/
def push (p : Punctuated α) (value : α) : Option (Punctuated α) := do
  let closed ← if p.last.isNone then some p else p.pushComma
  closed.pushValue value

/-- The last value, and the list without it. -/
def pop (p : Punctuated α) : Option α × Punctuated α :=
  match p.last with
  | some value => (some value, ⟨p.followed, none⟩)
  | none => (p.followed.getLast?, ⟨p.followed.dropLast, none⟩)

/-- A list put together from its values. -/
def collect (values : List α) : Option (Punctuated α) := values.foldlM push ⟨[], none⟩

/-- Whether a comma is behind the last value. -/
def isTrailing (p : Punctuated α) : Bool := !p.followed.isEmpty && p.last.isNone

/-- **A value can be put behind all others**, whether or not a comma closes the list. -/
theorem push_eq (p : Punctuated α) (value : α) : p.push value = some ⟨p.values, some value⟩ := by
  obtain ⟨followed, last⟩ := p
  cases last with
  | none => simp [push, pushValue, Punctuated.values]
  | some last => simp [push, pushComma, pushValue, Punctuated.values]

/-- Without a comma in between, it cannot. -/
example : ((ofList [1] false).pushValue 2).isNone = true := rfl

theorem push_ofList :
    (ofList values trailing).push value = some (ofList (values ++ [value]) false) := by
  rw [push_eq, values_ofList, ofList_concat]

/-- **A list can be put together from any values**, and no comma is behind the last one. -/
theorem collect_eq (values : List α) : collect values = some (ofList values false) := by
  have hmore : ∀ before : List α,
      values.foldlM push (ofList before false) = some (ofList (before ++ values) false) := by
    induction values with
    | nil => simp
    | cons value rest ih =>
      intro before
      rw [List.foldlM_cons, push_ofList]
      simpa using ih (before ++ [value])
  exact hmore []

theorem pop_eq (p : Punctuated α) : p.pop = (p.values.getLast?, ⟨p.values.dropLast, none⟩) := by
  obtain ⟨followed, last⟩ := p
  cases last with
  | none => simp [pop, Punctuated.values]
  | some last => simp [pop, Punctuated.values]

@[simp] theorem isTrailing_ofList (values : List α) : (ofList values false).isTrailing = false := by
  rcases List.eq_nil_or_concat values with rfl | ⟨front, last, rfl⟩
  · rfl
  · rw [List.concat_eq_append, ofList_concat]
    exact Bool.and_false _

end Punctuated

/-- Goes on with a list unless it could not be put together. -/
def punctuated {α : Type} : Option (Punctuated α) → Except Slip (Punctuated α)
  | some p => .ok p
  | none => .error .punctuation

/-! ## Fields -/

/-- Steps that each come about come about one after the other. -/
theorem mapM_eq_ok_map {ε α β : Type} {f : α → Except ε β} {g : α → β}
    (h : ∀ a, f a = .ok (g a)) (as : List α) : as.mapM f = .ok (as.map g) := by
  rw [funext h]
  exact List.mapM_pure

/-- A field with the name it is bound to and its address. -/
def BoundField.assemble (index : Nat) (f : Field) : Except Slip BoundField :=
  match f.name with
  | some name => .ok ⟨name, .named name, f⟩
  | none => do return ⟨← Ident.assemble ("field_" ++ toString index) .callSite, .index index, f⟩

/-- All fields with their names and addresses. -/
def Fields.assemble (fs : Fields) : Except Slip (List BoundField) :=
  fs.toList.zipIdx.mapM fun (f, index) => BoundField.assemble index f

theorem BoundField.assemble_eq (index : Nat) (f : Field) :
    BoundField.assemble index f = .ok (.at index f) := by
  have hplace :
      Ident.assemble ("field_" ++ toString index) .callSite = .ok (positionalBinding index) :=
    Ident.assemble_numbered ['f', 'i', 'e', 'l', 'd', '_'] (by decide) (by decide) index .callSite
  unfold BoundField.assemble BoundField.at
  cases f.name with
  | some name => rfl
  | none =>
    dsimp only
    rw [hplace]
    rfl

/-- **Fields are bound to names**, whether or not they have names of their own. -/
theorem Fields.assemble_eq (fs : Fields) : fs.assemble = .ok fs.bound :=
  mapM_eq_ok_map (fun (f, index) => BoundField.assemble_eq index f) _

/-- A method that replaces a field. -/
def Wither.assemble (f : BoundField) : Except Slip Wither := do
  return ⟨← Ident.assemble ("with_" ++ f.binding.plainText) f.binding.span, f⟩

theorem Wither.assemble_eq (f : BoundField) : assemble f = .ok (CopyMethods.wither f) := by
  have hname : Ident.assemble ("with_" ++ f.binding.plainText) f.binding.span = _ :=
    Ident.assemble_prefixed ['w', 'i', 't', 'h', '_'] (by decide) (by decide) f.binding
  unfold assemble
  rw [hname]
  rfl

/-- The copy methods of a struct. -/
def CopyMethods.assemble (s : StructItem) : Except Slip CopyMethods := do
  let bound ← s.fields.assemble
  return ⟨s, ← (bound.filter (·.field.isStored)).mapM Wither.assemble⟩

/-- **Copy methods come about** for fields of all names. -/
theorem CopyMethods.assemble_eq (s : StructItem) : assemble s = .ok (.of s) := by
  have hwithers := mapM_eq_ok_map Wither.assemble_eq s.fields.stored
  unfold assemble
  rw [Fields.assemble_eq]
  change (s.fields.stored.mapM Wither.assemble >>= fun _ => _) = _
  rw [hwithers]
  rfl

/-! ## Equality -/

namespace Equality

/-- The bound on type parameters, read from generated tokens. -/
def assembleBound : Except Slip Bound :=
  (parseWith (·.bound true true) .callSite (absolute ["core", "cmp", "PartialEq"])).mapError .tree

/-- The generated tokens are read as the bound. -/
theorem assembleBound_eq : assembleBound = .ok (.ofPath traitPath) := rfl

/-- A parameter with one more bound, if it is a type. -/
def assembleParam : GenericParam → Except Slip GenericParam
  | .type p => do
    let bounds ← punctuated ((Punctuated.ofList p.bounds p.trailingPlus).push (← assembleBound))
    return .type { p with bounds := bounds.values, trailingPlus := bounds.isTrailing }
  | .lifetime p => .ok (.lifetime p)
  | .const p => .ok (.const p)

/-- **A bound is added to every type parameter**, whatever bounds it has. -/
theorem assembleParam_eq (p : GenericParam) : assembleParam p = .ok (requireEquality p) := by
  cases p with
  | type p =>
    unfold assembleParam
    rw [assembleBound_eq]
    dsimp only [bind, Except.bind]
    rw [Punctuated.push_ofList]
    simp [punctuated, requireEquality, pure, Except.pure]
  | lifetime p => rfl
  | const p => rfl

/-- The fields that are compared, and the parameters of the implementation. -/
def assemble (e : Equality) : Except Slip (List FieldMember × Generics) := do
  let bound ← e.subject.fields.assemble
  let params ← e.subject.generics.params.mapM assembleParam
  return ((bound.filter (·.field.isStored)).map (·.member), { e.subject.generics with params })

/-- **An equality comes about** for all fields and parameters. -/
theorem assemble_eq (e : Equality) : e.assemble = .ok (e.compared, e.params) := by
  unfold assemble
  rw [Fields.assemble_eq, mapM_eq_ok_map assembleParam_eq]
  rfl

end Equality

/-! ## Accessors -/

namespace StoredAccess

open StoredField

/-- A stored field with the name of its setter. -/
def assembleSetter (f : StoredField) : Except Slip (StoredField × Ident) := do
  return (f, ← Ident.assemble ("set_" ++ f.getter.plainText) f.getter.span)

/-- **Setters have names** behind getters of all names. -/
theorem assembleSetter_eq (f : StoredField) : assembleSetter f = .ok (f, f.setter) := by
  have hname : Ident.assemble ("set_" ++ f.getter.plainText) f.getter.span = _ :=
    Ident.assemble_prefixed ['s', 'e', 't', '_'] (by decide) (by decide) f.getter
  rw [assembleSetter, hname]
  rfl

/-- Missing punctuation is a slip, and a field that cannot be read is not. -/
def RebuildStop.side : RebuildStop → Failure ⊕ Slip
  | .failure f => .inl f
  | .assertion => .inr .punctuation

/-- The fields that stay and those that leave; a list of them is taken apart and rebuilt. -/
def assembleFields (store : Expr) : Fields → Except (Failure ⊕ Slip) (Fields × List StoredField)
  | .named fields trailing =>
    ((rebuild store (.ofList fields trailing)).mapError RebuildStop.side).map fun rebuilt =>
      (rebuilt.kept.fields, rebuilt.stored)
  | .positional fields trailing =>
    (divideFields store (.positional fields trailing)).mapError .inl
  | .unit => (divideFields store .unit).mapError .inl

/-- What is left of a struct's fields, and its stored fields with the names of their setters. -/
def assemble (store : Expr) (fields : Fields) :
    Except (Failure ⊕ Slip) (Fields × List (StoredField × Ident)) := do
  let (kept, stored) ← assembleFields store fields
  return (kept, ← (stored.mapM assembleSetter).mapError .inr)

variable {store : Expr} {fields kept : Fields} {stored : List StoredField}

/-- **Fields that are divided come about**, and the names of the setters with them. -/
theorem exists_assemble_of_divideFields (h : divideFields store fields = .ok (kept, stored)) :
    ∃ kept', assemble store fields = .ok (kept', stored.map fun f => (f, f.setter)) ∧
      kept'.tokens = kept.tokens := by
  obtain ⟨kept', hfields, htokens⟩ : ∃ kept' : Fields,
      assembleFields store fields = .ok (kept', stored) ∧ kept'.tokens = kept.tokens := by
    cases fields with
    | named list trailing =>
      obtain ⟨rebuilt, hrebuild, -, htokens⟩ := exists_kept_of_divide h
      refine ⟨rebuilt.fields, ?_, htokens⟩
      rw [assembleFields, hrebuild]
      rfl
    | positional list trailing => exact ⟨kept, by rw [assembleFields, h]; rfl, rfl⟩
    | unit => exact ⟨kept, by rw [assembleFields, h]; rfl, rfl⟩
  have hsetters := mapM_eq_ok_map assembleSetter_eq stored
  refine ⟨kept', ?_, htokens⟩
  rw [assemble, hfields]
  dsimp only [bind, Except.bind]
  rw [hsetters]
  rfl

/-- Taking a list of fields apart and rebuilding it is no slip. -/
theorem assembleFields_ne_slip (slip : Slip) :
    assembleFields store fields ≠ .error (.inr slip) := by
  intro h
  cases fields with
  | named list trailing =>
    have hassertion : rebuild store (.ofList list trailing) ≠ .error .assertion :=
      rebuild_ne_assertion list trailing
    rw [assembleFields] at h
    cases hrebuild : rebuild store (.ofList list trailing) with
    | ok rebuilt =>
      rw [hrebuild] at h
      cases h
    | error stop =>
      rw [hrebuild] at h hassertion
      cases stop with
      | failure f => cases h
      | assertion => exact hassertion rfl
  | positional list trailing =>
    rw [assembleFields] at h
    cases hdivide : divideFields store (.positional list trailing) <;>
      rw [hdivide] at h <;> cases h
  | unit => cases h

/-- **Nothing else than a field that cannot be read keeps accessors from coming about.** -/
theorem assemble_ne_slip (slip : Slip) : assemble store fields ≠ .error (.inr slip) := by
  intro h
  cases hfields : assembleFields store fields with
  | ok found =>
    have hsetters := mapM_eq_ok_map assembleSetter_eq found.2
    rw [assemble, hfields] at h
    dsimp only [bind, Except.bind] at h
    rw [hsetters] at h
    cases h
  | error stop =>
    rw [assemble, hfields] at h
    cases h
    exact assembleFields_ne_slip slip hfields

end StoredAccess

/-! ## Peers -/

namespace AsyncPeer

/-- The parameters without the last one, and no comma behind them. -/
def dropHandler (inputs : Punctuated Param) : Option (Punctuated Param) :=
  match inputs.pop.2.pop with
  | (some last, front) => front.push last
  | (none, front) => some front

theorem dropHandler_eq (inputs : List Param) (trailing : Bool) :
    dropHandler (.ofList inputs trailing) = some (.ofList inputs.dropLast false) := by
  unfold dropHandler
  rw [Punctuated.pop_eq, Punctuated.pop_eq, Punctuated.values_ofList]
  rcases List.eq_nil_or_concat inputs.dropLast with hnil | ⟨front, last, hlast⟩
  · simp [Punctuated.values, Punctuated.ofList, hnil]
  · simp [Punctuated.values, Punctuated.push_eq, Punctuated.ofList_concat, hlast]

/-- A where clause without the predicates about a type parameter. -/
def assembleClause (name : Ident) (w : WhereClause) : Except Slip (Option WhereClause) := do
  let predicates ← punctuated (Punctuated.collect (w.predicates.filter (!isAbout name ·)))
  return if predicates.values.isEmpty then none
    else some ⟨predicates.values, predicates.isTrailing⟩

theorem assembleClause_eq (name : Ident) (w : WhereClause) :
    assembleClause name w = .ok (withoutPredicates name w) := by
  unfold assembleClause withoutPredicates
  rw [Punctuated.collect_eq]
  simp [punctuated, bind, Except.bind, pure, Except.pure]

/-- Parameters without a type parameter and the predicates about it. -/
def assembleParams (name : Ident) (g : Generics) : Except Slip Generics := do
  let params ← punctuated (Punctuated.collect (g.params.filter (!isTypeParam name ·)))
  let clause ← match g.clause with
    | some w => assembleClause name w
    | none => .ok none
  return { g with
    angled := g.angled && !params.values.isEmpty
    params := params.values, trailingComma := params.isTrailing, clause }

/-- **Parameters can be put together without any of them.** -/
theorem assembleParams_eq (name : Ident) (g : Generics) :
    assembleParams name g = .ok (withoutParam name g) := by
  unfold assembleParams withoutParam
  rw [Punctuated.collect_eq]
  cases g.clause with
  | none => simp [punctuated, bind, Except.bind, pure, Except.pure]
  | some w =>
    simp only [assembleClause_eq]
    simp [punctuated, bind, Except.bind, pure, Except.pure]

/-- The parameters that a peer declares. -/
def assembleGenerics (h : CompletionHandler) (g : Generics) : Except Slip Generics :=
  match h.shape with
  | .generic name => assembleParams name g
  | .implTrait | .boxed | .borrowed _ => .ok g

theorem assembleGenerics_eq (h : CompletionHandler) (g : Generics) :
    assembleGenerics h g = .ok (genericsOf h g) := by
  unfold assembleGenerics genericsOf
  cases h.shape with
  | generic name => exact assembleParams_eq name g
  | implTrait | boxed | borrowed => rfl

/-- A parameter of a peer, and the name under which it is passed on. -/
def assembleInput (index : Nat) : Param → Except Slip (Param × Option Ident)
  | .receiver r => .ok (.receiver r, none)
  | .typed attributes (.binding mutable name) ty =>
    .ok (.typed attributes (.binding mutable name) ty, some name)
  | .typed attributes (.other _) ty => do
    let name ← Ident.assemble ("arg_" ++ toString index) .mixedSite
    return (.typed attributes (.binding false name) ty, some name)

/-- **Every parameter of a peer has a name to be passed on under.** -/
theorem assembleInput_eq (index : Nat) (p : Param) :
    assembleInput index p = .ok (named index p, forward? index p) := by
  cases p with
  | receiver r => rfl
  | typed attributes pat ty =>
    cases pat with
    | binding mutable name => rfl
    | other tokens =>
      have hname : Ident.assemble ("arg_" ++ toString index) .mixedSite = _ :=
        Ident.assemble_numbered ['a', 'r', 'g', '_'] (by decide) (by decide) index
          .mixedSite
      rw [assembleInput, hname]
      rfl

theorem assembleInputs_eq (inputs : List (Param × Nat)) :
    (inputs.mapM fun (p, index) => assembleInput index p) =
      .ok (inputs.map fun (p, index) => (named index p, forward? index p)) :=
  mapM_eq_ok_map (fun (p, index) => assembleInput_eq index p) inputs

/-- The names that a peer's body keeps to itself. -/
def words : List String := ["continuation", "resumption", "value"]

/-- **What a peer's body keeps to itself are names.** -/
theorem assemble_words : ∀ word ∈ words, ∃ name,
    Ident.assemble word .mixedSite = .ok name ∧ name.tokens = hygienic word := by
  have hnames : ∀ word ∈ words, Ident.isName word = true ∧ Ident.isReserved word = false := by
    decide
  intro word hword
  obtain ⟨hname, hfree⟩ := hnames word hword
  exact ⟨_, Ident.assemble_eq_ok hname hfree, rfl⟩

/-- The peer of a function. -/
def assemble (f : FnItem) (h : CompletionHandler) (inImpl : Bool) (runtime : Path)
    (suffix : String) : Except Slip AsyncPeer := do
  let name ← Ident.assemble (f.sig.name.plainText ++ suffix) f.sig.name.span
  let inputs ← punctuated (dropHandler (.ofList f.sig.inputs f.sig.trailingComma))
  let generics ← assembleGenerics h f.sig.generics
  let named ← inputs.values.zipIdx.mapM fun (p, index) => assembleInput index p
  return { original := f
           handler := h
           sig := { f.sig with
             constWord := false
             asyncWord := some .callSite
             name, generics
             inputs := named.map (·.1)
             trailingComma := inputs.isTrailing
             output := h.payload? }
           forwarded := named.filterMap (·.2)
           callee := calleeOf f.sig inImpl
           runtime }

/-- **A peer comes about** under a suffix of identifier characters that no reserved word ends
with. -/
theorem exists_assemble_of_suffix {suffix : String} (hs : Config.Continues suffix)
    (hfree : ∀ w ∈ Ident.reserved, ¬ suffix.toList <:+ w.toList) (f : FnItem)
    (h : CompletionHandler) (inImpl : Bool) (runtime : Path) :
    ∃ p, AsyncPeer.of f h inImpl runtime suffix = .ok p ∧
      assemble f h inImpl runtime suffix = .ok p := by
  obtain ⟨name, hof, hname⟩ := Ident.exists_assemble_suffixed hs hfree f.sig.name
  unfold AsyncPeer.of assemble
  rw [hof, hname, dropHandler_eq, assembleGenerics_eq]
  dsimp only [punctuated, bind, Except.bind]
  rw [assembleInputs_eq]
  refine ⟨_, rfl, ?_⟩
  simp [signature, kept, pure, Except.pure, List.filterMap_map, Function.comp_def]

end AsyncPeer

/-! ## Wrapped fields -/

/-- An attribute with a value is read again from what it prints, and prints the same. -/
def Attribute.RereadsValue (a : Attribute) : Prop :=
  ∀ span value, a.form = .nameValue span value → ∃ b, a.reread = .ok b ∧ b.tokens = a.tokens

namespace FieldAttribute

/-- The attribute that the arguments hold. -/
def given? (args : Tokens) : Option Attribute := do
  let l ← (ArgumentList.parse args).toOption
  let (text, _) ← (attributeText l).toOption
  ofLiteral? text

/-- The struct with the attribute as it is read from generated tokens. -/
def assemble (a : Attribute) (s : StructItem) : Except Slip StructItem := do
  return wrap (← a.reread.mapError .tree) s

/-- A struct prints as the attribute does that its fields get. -/
theorem tokens_wrap_congr {a b : Attribute} (h : b.tokens = a.tokens) (s : StructItem) :
    (wrap b s).tokens = (wrap a s).tokens := by
  have hfield : ∀ f : Field,
      Field.tokens (if f.isStored then { f with attributes := f.attributes ++ [b] } else f) =
        Field.tokens (if f.isStored then { f with attributes := f.attributes ++ [a] } else f) := by
    intro f
    split
    · simp [Field.tokens, h]
    · rfl
  obtain ⟨attributes, vis, name, generics, fields⟩ := s
  cases fields <;>
    simp [wrap, StructItem.tokens, Fields.map, Fields.tokens, hfield, Function.comp_def]

/-- **A wrapped struct comes about**, if the value that an attribute may have is read again. -/
theorem exists_assemble_of_given? {args : Tokens} {a : Attribute} (h : given? args = some a)
    (hvalue : a.RereadsValue) (s : StructItem) :
    ∃ w, assemble a s = .ok w ∧ w.tokens = (wrap a s).tokens := by
  obtain ⟨l, -, h⟩ := Option.bind_eq_some_iff.1 h
  obtain ⟨⟨text, span⟩, -, h⟩ := Option.bind_eq_some_iff.1 h
  obtain ⟨b, hreread, htokens⟩ : ∃ b, a.reread = .ok b ∧ b.tokens = a.tokens := by
    by_cases hform : ∃ span value, a.form = .nameValue span value
    · obtain ⟨span, value, hform⟩ := hform
      exact hvalue span value hform
    · exact exists_reread_of_ofLiteral? h fun span value heq => hform ⟨span, value, heq⟩
  refine ⟨wrap b s, ?_, tokens_wrap_congr htokens s⟩
  rw [assemble, hreread]
  rfl

end FieldAttribute

end DeclSynth
