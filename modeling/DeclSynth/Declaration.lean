import DeclSynth.Syntax.Item

/-!
# Facts about declarations

What expanders ask of a declaration: which of its fields hold state, how they are bound
and addressed, what an implementation offers for a type, what an item is called, and
which attributes it carries. A field whose type is a `PhantomData` belongs to the type
and not to its values; every other field is stored.
-/

namespace DeclSynth

/-- What a member contributes to its type. -/
structure MemberFacts where
  stored : Bool
  computed : Bool
  typeLevel : Bool
deriving DecidableEq, Repr

namespace Ty

/-- Whether a type is a marker that holds nothing: a path that ends in `PhantomData`. -/
def isPhantom : Ty → Bool
  | path _ _ p =>
    match p.segments.getLast? with
    | some s => s.name.text == "PhantomData"
    | none => false
  | _ => false

/-- Whether a type is the empty tuple. -/
def isUnit : Ty → Bool
  | tuple _ [] _ => true
  | _ => false

end Ty

/-! ## Fields -/

/-- Whether a field holds state. -/
def Field.isStored (f : Field) : Bool := !f.ty.isPhantom

/-- What a field contributes to its type. -/
def Field.facts (f : Field) : MemberFacts := ⟨f.isStored, false, !f.isStored⟩

/-- The ways in which fields are laid out. -/
inductive FieldsShape where
  | named
  | unnamed
  | unit
deriving DecidableEq, Repr

/-- What data files call a layout. -/
def FieldsShape.tag : FieldsShape → String
  | named => "Named"
  | unnamed => "Unnamed"
  | unit => "Unit"

/-- How fields are laid out. -/
def Fields.shape : Fields → FieldsShape
  | named .. => .named
  | positional .. => .unnamed
  | unit => .unit

/-- How a field of a value is addressed: by its name, or by its place. An address by place is 32
bits wide, and a number of any size stands for it here: every field takes two characters or more,
and a place in a source text is 32 bits wide too, so no struct that can be read has that many
fields. -/
inductive FieldMember where
  | named (name : Ident)
  | index (n : Nat)
deriving DecidableEq

/-- The tokens of a field's address. -/
def FieldMember.tokens : FieldMember → Tokens
  | named name => name.tokens
  | index n => lit (toString n)

/-- A field, the name it is bound to in generated code, and its address. -/
structure BoundField where
  binding : Ident
  member : FieldMember
  field : Field

/-- The name a positional field is bound to. -/
def positionalBinding (index : Nat) : Ident :=
  .numbered ['f', 'i', 'e', 'l', 'd', '_'] (by decide) index .callSite

/-- The field at a place among all fields, with its binding and its address; the place always fits
an address. -/
def BoundField.at (index : Nat) (f : Field) : BoundField :=
  match f.name with
  | some name => ⟨name, .named name, f⟩
  | none => ⟨positionalBinding index, .index index, f⟩

namespace Fields

/-- All fields, bound by their places in the declaration. -/
def bound (fs : Fields) : List BoundField := fs.toList.zipIdx.map fun (f, index) => .at index f

/-- The fields that hold state, in declaration order. -/
def stored (fs : Fields) : List BoundField := fs.bound.filter (·.field.isStored)

/-- The fields that belong to the type, in declaration order. -/
def typeLevel (fs : Fields) : List BoundField := fs.bound.filter (!·.field.isStored)

end Fields

/-! ## Types -/

/-- What is known of a type: whether its values hold state, and what it extends. -/
structure TypeFacts where
  hasStored : Bool
  supertype : Option Path

/-- What is known of a struct. -/
def StructItem.facts (s : StructItem) (supertype : Option Path) : TypeFacts :=
  ⟨s.fields.toList.any Field.isStored, supertype⟩

/-! ## Implementations -/

/-- Whether a signature is that of a getter: it takes `&self` alone and returns a value. -/
def Signature.isGetter (s : Signature) : Bool :=
  let shared := match s.inputs with
    | [.receiver r] => r.reference && !r.mutable
    | _ => false
  let returns := match s.output with
    | some ty => !ty.isUnit
    | none => false
  shared && returns && s.asyncWord.isNone && s.generics.params.isEmpty

/-- What a member of an implementation contributes: getters are computed, constants and types
belong to the type. -/
def Member.facts : Member → MemberFacts
  | fn _ _ _ sig _ => ⟨false, sig.isGetter, false⟩
  | const .. | type .. => ⟨false, false, true⟩
  | macroCall .. | verbatim _ => ⟨false, false, false⟩

/-- The name of a member, if it is a function. -/
def Member.fnName? : Member → Option Ident
  | fn _ _ _ sig _ => some sig.name
  | _ => none

/-- Whether a type is a path that ends in a name. -/
def Ty.endsIn (name : Ident) : Ty → Bool
  | .path _ none p =>
    match p.segments.getLast? with
    | some s => s.name.sameName name
    | none => false
  | _ => false

namespace Item

/-- The implementations of a type's own methods among items. -/
def inherentImpls (items : List Item) (name : Ident) : List ImplItem :=
  items.filterMap fun
    | .impl i => if i.traitPath.isNone && i.selfTy.endsIn name then some i else none
    | _ => none

/-- The getters that items declare for a type. -/
def computedProperties (items : List Item) (name : Ident) : List Ident :=
  (inherentImpls items name).flatMap fun i =>
    (i.members.filter (·.facts.computed)).filterMap Member.fnName?

/-- The name that an item declares. -/
def name? : Item → Option Ident
  | struct s => some s.name
  | enum e => some e.name
  | fn f => some f.sig.name
  | mod _ _ _ name _ => some name
  | named _ _ name _ _ => some name
  | impl _ | use .. | externCrate .. | foreign .. | macroCall .. | verbatim _ => none

/-- The attributes of an item, if it can carry any. -/
def attributes? : Item → Option (List Attribute)
  | struct s => some s.attributes
  | enum e => some e.attributes
  | fn f => some f.attributes
  | impl i => some i.attributes
  | mod attributes .. | use attributes .. | externCrate attributes .. | named _ attributes ..
  | foreign attributes .. | macroCall attributes .. => some attributes
  | verbatim _ => none

/-- The item with its attributes changed. -/
def mapAttributes (f : List Attribute → List Attribute) : Item → Item
  | struct s => struct { s with attributes := f s.attributes }
  | enum e => enum { e with attributes := f e.attributes }
  | fn i => fn { i with attributes := f i.attributes }
  | impl i => impl { i with attributes := f i.attributes }
  | mod attributes vis unsafeWord name content => mod (f attributes) vis unsafeWord name content
  | use attributes vis colon tree => use (f attributes) vis colon tree
  | externCrate attributes name newName tokens => externCrate (f attributes) name newName tokens
  | named kind attributes name head body => named kind (f attributes) name head body
  | foreign attributes head body => foreign (f attributes) head body
  | macroCall attributes tokens => macroCall (f attributes) tokens
  | verbatim tokens => verbatim tokens

end Item

/-- The tokens of an implementation for a declared type: of a trait, if one is given, else of the
type's own methods. -/
def implementation (params : Generics) (ofTrait : Option Tokens) (name : Ident) (body : Tokens) :
    Tokens :=
  kw "impl" ++ params.implemented ++ (ofTrait.map (· ++ kw "for")).getD [] ++ name.tokens ++
    params.applied ++ params.whereTokens ++ brace body

/-- The attribute that marks generated code as derived. -/
def derivedMark : Tokens := op "#" ++ bracket (kw "automatically_derived")

/-! ## Attributes -/

/-- The first attribute of a name. -/
def findAttribute (name : String) (attributes : List Attribute) : Option Attribute :=
  attributes.find? (·.isNamed name)

/-- The attributes without those of a name. -/
def stripAttribute (name : String) (attributes : List Attribute) : List Attribute :=
  attributes.filter (!·.isNamed name)

end DeclSynth
