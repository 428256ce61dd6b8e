import DeclSynth.Argument
import DeclSynth.Declaration
import DeclSynth.Expansion.InContext

/-!
# Initializers

A struct gets a function `new` with one parameter for each stored field. Every field is
set in declaration order, a stored one to its parameter and any other to the marker
value. Where there is no stored field, `new` may implement that of a supertype.
-/

namespace DeclSynth

/-- What a field of a new value is set to. -/
inductive InitialValue where
  | parameter (name : Ident)
  | marker
deriving DecidableEq

/-- The initializer of a struct: its fields with the values they are set to, in declaration order,
and the trait that `new` belongs to, if it is not the struct's own. -/
structure Initializer where
  subject : StructItem
  ofTrait : Option Path

namespace Initializer

/-- What `#[add_init]` takes. -/
def spec : ArgumentSpec := ⟨"#[add_init]", ["extends"], [], .forbidden⟩

/-- The parameters of `new`. -/
def params (i : Initializer) : List BoundField := i.subject.fields.stored

/-- What a field is set to. -/
def valueOf (f : BoundField) : InitialValue :=
  if f.field.isStored then .parameter f.binding else .marker

/-- The fields and what they are set to. -/
def assignments (i : Initializer) : List (FieldMember × InitialValue) :=
  i.subject.fields.bound.map fun f => (f.member, valueOf f)

/-- The initializer of a struct that may extend a supertype. -/
def of (s : StructItem) (supertype : Option Path) : Initializer :=
  ⟨s, if (s.facts supertype).hasStored then none else supertype⟩

/-! ## Printing -/

/-- The tokens of the marker value. -/
def markerTokens : Tokens := absolute ["core", "marker", "PhantomData"]

/-- The tokens of a value. -/
def valueTokens : InitialValue → Tokens
  | .parameter name => name.tokens
  | .marker => markerTokens

/-- The tokens of a named field that is set; one that is set to its own parameter is named once. -/
def namedTokens : FieldMember × InitialValue → Tokens
  | (member, .parameter _) => member.tokens
  | (member, .marker) => member.tokens ++ op ":" ++ markerTokens

/-- The tokens of the new value. -/
def construct (i : Initializer) : Tokens :=
  kw "Self" ++ match i.subject.fields.shape with
    | .named => brace (commas (i.assignments.map namedTokens))
    | .unnamed => paren (commas (i.assignments.map fun (_, value) => valueTokens value))
    | .unit => []

/-- The tokens of a parameter. -/
def paramTokens (f : BoundField) : Tokens := f.binding.tokens ++ op ":" ++ f.field.ty.tokens

/-- The tokens of the implementation that holds `new`. -/
def tokens (i : Initializer) : Tokens :=
  let vis := if i.ofTrait.isSome then [] else i.subject.vis.tokens
  implementation i.subject.generics (i.ofTrait.map Path.tokens) i.subject.name <|
    vis ++ kw "fn" ++ kw "new" ++ paren (commas (i.params.map paramTokens)) ++ op "->" ++
      kw "Self" ++ brace i.construct

/-! ## Expanding -/

/-- The initializer of a struct, with a warning where a supertype has to be passed over. -/
def synthesizeInContext (s : StructItem) (extends_ : Option Path) : InContext Initializer := do
  .log .debug "synthesizing initializer"
    [("target_type", s.name.text), ("stored", toString s.fields.stored.length),
      ("supertype", toString extends_.isSome)]
  match (s.facts extends_).hasStored, extends_ with
  | true, some supertype =>
    .warn supertype.span ("`extends` is ignored because `" ++ s.name.text ++
      "` has stored properties; an inherent `new` is generated instead")
  | _, _ => pure ()
  return .of s extends_

/-- What synthesizing an initializer comes to, in a context in which nothing has been reported. The
configuration plays no part. -/
def synthesize (s : StructItem) (extends_ : Option Path) : Outcome Initializer :=
  (synthesizeInContext s extends_).fresh .default

/-- A struct with its initializer behind it. -/
def inContext (args item : Tokens) : InContext Tokens := do
  let args ← ArgumentList.parse args
  args.validate spec
  let supertype ← args.path "extends"
  match ← Item.parse item with
  | .struct s =>
    let initializer ← synthesizeInContext s supertype
    return s.tokens ++ initializer.tokens
  | _ => .fail (.unsupportedTarget "#[add_init]" "a struct") .callSite

/-- What a struct is expanded to, in a context in which nothing has been reported. The configuration
plays no part. -/
def expand (args item : Tokens) : Outcome Tokens := (inContext args item).fresh .default

end Initializer

end DeclSynth
