import DeclSynth.Syntax.Printer

/-!
# Syntax trees: declarations

Generics, fields, signatures and items. Expanders read fields, signatures, the members of
implementations and the items of modules, so these are trees; a body, a pattern that is
not a plain name, and the inside of any other item is kept as the tokens it prints.
-/

namespace DeclSynth

/-- How far a declaration can be seen. -/
inductive Visibility where
  /-- Nothing written: as far as what surrounds it. -/
  | inherited
  /-- `pub` -/
  | everywhere
  /-- `pub(path)`, or `pub(in path)`. -/
  | restricted (inWord : Bool) (leadingColon : Bool) (path : List Ident)
deriving DecidableEq

/-- A type parameter. -/
structure TypeParam where
  attributes : List Attribute
  name : Ident
  bounds : List Bound
  trailingPlus : Bool
  default : Option Ty

/-- A constant parameter. -/
structure ConstParam where
  attributes : List Attribute
  name : Ident
  ty : Ty
  default : Option Expr

/-- A generic parameter. -/
inductive GenericParam where
  | lifetime (param : LifetimeParam)
  | type (param : TypeParam)
  | const (param : ConstParam)

/-- A predicate of a where clause. -/
inductive WherePredicate where
  | lifetime (lifetime : Lifetime) (bounds : List Lifetime) (trailingPlus : Bool)
  | type (binder : Option Binder) (bounded : Ty) (bounds : List Bound) (trailingPlus : Bool)

/-- A where clause. -/
structure WhereClause where
  predicates : List WherePredicate
  trailingComma : Bool

/-- The parameters of a declaration, whether angle brackets were written at all and where,
and the where clause. -/
structure Generics where
  angled : Bool
  span : Span
  params : List GenericParam
  trailingComma : Bool
  clause : Option WhereClause

/-- No parameters and no where clause. -/
def Generics.none : Generics := ⟨false, .callSite, [], false, Option.none⟩

/-- A field of a struct or a variant; positional fields have no name. -/
structure Field where
  attributes : List Attribute
  vis : Visibility
  name : Option Ident
  ty : Ty

/-- The fields of a struct or a variant. -/
inductive Fields where
  | named (fields : List Field) (trailingComma : Bool)
  | positional (fields : List Field) (trailingComma : Bool)
  | unit

/-- The fields in declaration order. -/
def Fields.toList : Fields → List Field
  | named fields _ => fields
  | positional fields _ => fields
  | unit => []

/-- The same layout with each field replaced. -/
def Fields.map (f : Field → Field) : Fields → Fields
  | named fields trailing => named (fields.map f) trailing
  | positional fields trailing => positional (fields.map f) trailing
  | unit => unit

/-- The pattern of a parameter. -/
inductive Pat where
  /-- A plain name, perhaps mutable: neither `ref` nor with a pattern behind it. -/
  | binding (mutable : Bool) (name : Ident)
  /-- Any other pattern, as it prints. -/
  | other (tokens : Tokens)

/-- A method's receiver: whether it is a reference and with which lifetime, whether it is mutable,
where its word stands, and the type it is given if any. -/
structure Receiver where
  attributes : List Attribute
  reference : Bool
  lifetime : Option Lifetime
  mutable : Bool
  span : Span
  ty : Option Ty

/-- A parameter of a function. -/
inductive Param where
  | receiver (receiver : Receiver)
  | typed (attributes : List Attribute) (pat : Pat) (ty : Ty)

/-- The signature of a function. `qualifiers` holds `unsafe` and the linkage. -/
structure Signature where
  constWord : Bool
  asyncWord : Option Span
  qualifiers : Tokens
  name : Ident
  generics : Generics
  inputs : List Param
  trailingComma : Bool
  variadic : Tokens
  output : Option Ty

/-- A function with its body, what stands inside the braces. -/
structure FnItem where
  attributes : List Attribute
  vis : Visibility
  sig : Signature
  body : Tokens

/-- A struct. -/
structure StructItem where
  attributes : List Attribute
  vis : Visibility
  name : Ident
  generics : Generics
  fields : Fields

/-- A variant of an enum. -/
structure VariantItem where
  attributes : List Attribute
  name : Ident
  fields : Fields
  discriminant : Option Expr

/-- An enum. -/
structure EnumItem where
  attributes : List Attribute
  vis : Visibility
  name : Ident
  generics : Generics
  variants : List VariantItem
  trailingComma : Bool

/-- A member of an implementation. -/
inductive Member where
  | fn (attributes : List Attribute) (vis : Visibility) (defaultWord : Bool) (sig : Signature)
      (body : Tokens)
  /-- A constant: its name and all it prints behind its attributes. -/
  | const (attributes : List Attribute) (name : Ident) (tokens : Tokens)
  /-- A type: all it prints behind its attributes. -/
  | type (attributes : List Attribute) (tokens : Tokens)
  /-- A macro call: all it prints behind its attributes. -/
  | macroCall (attributes : List Attribute) (tokens : Tokens)
  /-- Tokens kept as they were written. -/
  | verbatim (tokens : Tokens)

/-- An implementation. `head` holds the words before `impl`; `traitPath` the implemented trait,
and whether it is negated. -/
structure ImplItem where
  attributes : List Attribute
  head : Tokens
  generics : Generics
  traitPath : Option (Bool × Path)
  selfTy : Ty
  members : List Member

/-- What a `use` brings in. -/
inductive UseTree where
  | path (name : Ident) (tree : UseTree)
  | name (name : Ident)
  | rename (name : Ident) (newName : Ident)
  | glob
  | group (trees : List UseTree) (trailingComma : Bool)

/-- The kinds of item that have a name and nothing else that expanders read. -/
inductive NamedKind where
  | const
  | static
  | trait
  | traitAlias
  | type
  | union
deriving DecidableEq, Repr

/-- A declaration. Where an item has a `body`, attributes written inside its braces print there. -/
inductive Item where
  | struct (item : StructItem)
  | enum (item : EnumItem)
  | fn (item : FnItem)
  | impl (item : ImplItem)
  | mod (attributes : List Attribute) (vis : Visibility) (unsafeWord : Bool) (name : Ident)
      (content : Option (List Item))
  | use (attributes : List Attribute) (vis : Visibility) (leadingColon : Bool) (tree : UseTree)
  /-- `extern crate`: its name, the name it is given if any, and its tokens. -/
  | externCrate (attributes : List Attribute) (name : Ident) (newName : Option Ident)
      (tokens : Tokens)
  | named (kind : NamedKind) (attributes : List Attribute) (name : Ident) (head : Tokens)
      (body : Option Tokens)
  /-- A block of foreign items. -/
  | foreign (attributes : List Attribute) (head : Tokens) (body : Tokens)
  /-- A macro call. -/
  | macroCall (attributes : List Attribute) (tokens : Tokens)
  /-- Tokens kept as they were written, attributes included. -/
  | verbatim (tokens : Tokens)

/-! ## Printing -/

/-- The tokens of a visibility. -/
def Visibility.tokens : Visibility → Tokens
  | inherited => []
  | everywhere => kw "pub"
  | restricted inWord leadingColon path =>
    kw "pub" ++ paren ((if inWord then kw "in" else []) ++ (if leadingColon then op "::" else []) ++
      separated (op "::") false (path.map Ident.tokens))

/-- The tokens of an optional `= value`. -/
def defaultTokens : Option Tokens → Tokens
  | some value => op "=" ++ value
  | none => []

/-- The tokens of a type parameter without its default. -/
def TypeParam.bounded (p : TypeParam) : Tokens :=
  outerAttributes p.attributes ++ p.name.tokens ++
    boundsAfterColon p.trailingPlus (boundList p.bounds)

/-- The tokens of a constant parameter without its default. -/
def ConstParam.typed (p : ConstParam) : Tokens :=
  outerAttributes p.attributes ++ kw "const" ++ p.name.tokens ++ op ":" ++ p.ty.tokens

/-- A parameter as it was written, marked if it is a lifetime. -/
def GenericParam.declared : GenericParam → Bool × Tokens
  | lifetime p => (true, p.tokens)
  | type p => (false, p.bounded ++ defaultTokens (p.default.map Ty.tokens))
  | const p => (false, p.typed ++ defaultTokens (p.default.map Expr.tokens))

/-- A parameter as an implementation declares it: without default. -/
def GenericParam.implemented : GenericParam → Bool × Tokens
  | lifetime p => (true, p.tokens)
  | type p => (false, p.bounded)
  | const p => (false, p.typed)

/-- A parameter as an argument: its name alone. -/
def GenericParam.applied : GenericParam → Bool × Tokens
  | lifetime p => (true, p.lifetime.tokens)
  | type p => (false, p.name.tokens)
  | const p => (false, p.name.tokens)

/-- The parameters in angle brackets, each printed by `piece`; nothing for none. -/
def Generics.list (g : Generics) (piece : GenericParam → Bool × Tokens) : Tokens :=
  if g.params.isEmpty then [] else lifetimesFirst (g.params.map piece) g.trailingComma

/-- The parameters as they were declared. -/
def Generics.declared (g : Generics) : Tokens := g.list GenericParam.declared

/-- The parameters as an implementation declares them. -/
def Generics.implemented (g : Generics) : Tokens := g.list GenericParam.implemented

/-- The parameters as arguments. -/
def Generics.applied (g : Generics) : Tokens := g.list GenericParam.applied

/-- The tokens of a predicate. -/
def WherePredicate.tokens : WherePredicate → Tokens
  | lifetime l bounds trailing =>
    l.tokens ++ op ":" ++ plusses trailing (bounds.map Lifetime.tokens)
  | type binder bounded bounds trailing =>
    binderTokens binder ++ bounded.tokens ++ op ":" ++ boundsTokens trailing bounds

/-- The tokens of a where clause; nothing for one without predicates. -/
def WhereClause.tokens (w : WhereClause) : Tokens :=
  if w.predicates.isEmpty then []
  else kw "where" ++ separated (op ",") w.trailingComma (w.predicates.map WherePredicate.tokens)

/-- The tokens of the where clause. -/
def Generics.whereTokens (g : Generics) : Tokens := (g.clause.map WhereClause.tokens).getD []

/-- The tokens of a field. -/
def Field.tokens (f : Field) : Tokens :=
  f.attributes.flatMap (·.tokens) ++ f.vis.tokens ++
    (f.name.map fun n => n.tokens ++ op ":").getD [] ++ f.ty.tokens

/-- The tokens of fields with their delimiters. -/
def Fields.tokens : Fields → Tokens
  | named fields trailing => brace (separated (op ",") trailing (fields.map Field.tokens))
  | positional fields trailing => paren (separated (op ",") trailing (fields.map Field.tokens))
  | unit => []

/-- The tokens of a struct. A where clause comes before named fields and after positional ones. -/
def StructItem.tokens (s : StructItem) : Tokens :=
  outerAttributes s.attributes ++ s.vis.tokens ++ kw "struct" ++ s.name.tokens ++
    s.generics.declared ++
    match s.fields with
    | .named .. => s.generics.whereTokens ++ s.fields.tokens
    | .positional .. => s.fields.tokens ++ s.generics.whereTokens ++ op ";"
    | .unit => s.generics.whereTokens ++ op ";"

/-- The tokens of a variant. -/
def VariantItem.tokens (v : VariantItem) : Tokens :=
  v.attributes.flatMap (·.tokens) ++ v.name.tokens ++ v.fields.tokens ++
    defaultTokens (v.discriminant.map Expr.tokens)

/-- The tokens of an enum. -/
def EnumItem.tokens (e : EnumItem) : Tokens :=
  outerAttributes e.attributes ++ e.vis.tokens ++ kw "enum" ++ e.name.tokens ++
    e.generics.declared ++ e.generics.whereTokens ++
    brace (separated (op ",") e.trailingComma (e.variants.map VariantItem.tokens))

/-- The tokens of a pattern. -/
def Pat.tokens : Pat → Tokens
  | binding mutable name => (if mutable then kw "mut" else []) ++ name.tokens
  | other tokens => tokens

/-- The tokens of a receiver. -/
def Receiver.tokens (r : Receiver) : Tokens :=
  outerAttributes r.attributes ++ (if r.reference then op "&" else []) ++
    (r.lifetime.map Lifetime.tokens).getD [] ++ (if r.mutable then kw "mut" else []) ++ kw "self" ++
    (r.ty.map fun ty => op ":" ++ ty.tokens).getD []

/-- The tokens of a parameter. -/
def Param.tokens : Param → Tokens
  | receiver r => r.tokens
  | typed attributes pat ty => outerAttributes attributes ++ pat.tokens ++ op ":" ++ ty.tokens

/-- The tokens of a signature. -/
def Signature.tokens (s : Signature) : Tokens :=
  let comma := if s.variadic.isEmpty || s.inputs.isEmpty || s.trailingComma then [] else op ","
  (if s.constWord then kw "const" else []) ++ (if s.asyncWord.isSome then kw "async" else []) ++
    s.qualifiers ++ kw "fn" ++ s.name.tokens ++ s.generics.declared ++
    paren (separated (op ",") s.trailingComma (s.inputs.map Param.tokens) ++ comma ++ s.variadic) ++
    returnTokens s.output ++ s.generics.whereTokens

/-- The tokens of a function. -/
def FnItem.tokens (f : FnItem) : Tokens :=
  outerAttributes f.attributes ++ f.vis.tokens ++ f.sig.tokens ++
    brace (innerAttributes f.attributes ++ f.body)

/-- The tokens of a member. -/
def Member.tokens : Member → Tokens
  | fn attributes vis defaultWord sig body =>
    outerAttributes attributes ++ vis.tokens ++ (if defaultWord then kw "default" else []) ++
      sig.tokens ++ brace (innerAttributes attributes ++ body)
  | const attributes _ tokens => outerAttributes attributes ++ tokens
  | type attributes tokens => outerAttributes attributes ++ tokens
  | macroCall attributes tokens => outerAttributes attributes ++ tokens
  | verbatim tokens => tokens

/-- The tokens of an implementation. -/
def ImplItem.tokens (i : ImplItem) : Tokens :=
  let ofTrait := match i.traitPath with
    | some (negative, path) => (if negative then op "!" else []) ++ path.tokens ++ kw "for"
    | none => []
  outerAttributes i.attributes ++ i.head ++ kw "impl" ++ i.generics.declared ++ ofTrait ++
    i.selfTy.tokens ++ i.generics.whereTokens ++
    brace (innerAttributes i.attributes ++ i.members.flatMap Member.tokens)

mutual

/-- The tokens of a use tree. -/
def UseTree.tokens : UseTree → Tokens
  | .path name tree => name.tokens ++ op "::" ++ tree.tokens
  | .name name => name.tokens
  | .rename name newName => name.tokens ++ kw "as" ++ newName.tokens
  | .glob => op "*"
  | .group trees trailing => brace (separated (op ",") trailing (useTreeList trees))

/-- The tokens of use trees, one by one. -/
def useTreeList : List UseTree → List Tokens
  | [] => []
  | t :: rest => t.tokens :: useTreeList rest

end

mutual

/-- The tokens of an item. -/
def Item.tokens : Item → Tokens
  | .struct item => item.tokens
  | .enum item => item.tokens
  | .fn item => item.tokens
  | .impl item => item.tokens
  | .mod attributes vis unsafeWord name content =>
    outerAttributes attributes ++ vis.tokens ++ (if unsafeWord then kw "unsafe" else []) ++
      kw "mod" ++ name.tokens ++
      match content with
      | some items => brace (innerAttributes attributes ++ itemList items)
      | none => op ";"
  | .use attributes vis leadingColon tree =>
    outerAttributes attributes ++ vis.tokens ++ kw "use" ++
      (if leadingColon then op "::" else []) ++ tree.tokens ++ op ";"
  | .externCrate attributes _ _ tokens => outerAttributes attributes ++ tokens
  | .named _ attributes _ head body =>
    outerAttributes attributes ++ head ++
      (body.map fun ts => brace (innerAttributes attributes ++ ts)).getD []
  | .foreign attributes head body =>
    outerAttributes attributes ++ head ++ brace (innerAttributes attributes ++ body)
  | .macroCall attributes tokens => outerAttributes attributes ++ tokens
  | .verbatim tokens => tokens

/-- The tokens of items, one after the other. -/
def itemList : List Item → Tokens
  | [] => []
  | i :: rest => i.tokens ++ itemList rest

end

end DeclSynth
