import DeclSynth.Config.Runtime
import DeclSynth.Declaration
import DeclSynth.Expansion.InContext

/-!
# Fields that live in a store

A struct's fields that are marked `#[stored(..)]` leave the struct. In their place come
a getter, which reads the store under a key and falls back on the default value, and a
setter, which writes there. How a value is read depends on the kind of its default.
-/

namespace DeclSynth

/-- What a default value is; it decides how stored values are read. -/
inductive DefaultKind where
  | bool
  | integer
  | text
  | float
  | constant
deriving DecidableEq, Repr

namespace DefaultKind

/-- What data files call a kind. -/
def tag : DefaultKind → String
  | bool => "Bool"
  | integer => "Integer"
  | text => "String"
  | float => "Float"
  | constant => "Constant"

/-- The kind of a literal, if defaults of that kind are supported. -/
def ofLiteral? (text : String) : Option DefaultKind :=
  if text == "true" || text == "false" then some .bool
  else match Literal.kind text with
    | .integer => some .integer
    | .text => some .text
    | .float => some .float
    | .byteText | .cText | .byte | .char | .unknown => none

/-- The kind of a negated default: only numbers have one. -/
def negated? : DefaultKind → Option DefaultKind
  | integer => some .integer
  | float => some .float
  | bool | text | constant => none

end DefaultKind

mutual

/-- The kind of a default value, if it is supported. -/
def Expr.defaultKind? : Expr → Option DefaultKind
  | .mk _ _ _ outline => outline.defaultKind?

/-- The kind of a default value, by its outline. -/
def Outline.defaultKind? : Outline → Option DefaultKind
  | .literal text _ => DefaultKind.ofLiteral? text
  | .path qualified _ => if qualified then none else some .constant
  | .negation operand => operand.defaultKind?.bind DefaultKind.negated?
  | .paren inner => inner.defaultKind?
  | .array _ | .range | .comparison | .block | .macroCall _ | .verbatim | .other => none

end

/-- A field that became a pair of accessors. -/
structure StoredField where
  field : Field
  getter : Ident
  key : Tokens
  default : Expr
  kind : DefaultKind
  store : Expr

/-- The accessors of a struct: what is left of it, and the fields that left it, in order. -/
structure StoredAccess where
  remainder : StructItem
  stored : List StoredField
  runtime : Path

namespace StoredField

/-- What `#[stored]` takes. -/
def spec : ArgumentSpec :=
  ⟨"#[stored]", ["default_value", "key", "store"], ["default_value"], .forbidden⟩

/-- The name of the attribute that marks a stored field. -/
def mark : String := "stored"

/-- The key of a stored field: the text that is given, or else the field's name as it is written. -/
def keyOf (name : Ident) (args : ArgumentList) : Except Failure Tokens :=
  match args.string "key" with
  | .error f => .error f
  | .ok (some (text, span)) => .ok [.literal text span]
  | .ok none => .ok (str name.text)

/-- A stored field, from the arguments of its mark. -/
def ofArguments (defaultStore : Expr) (field : Field) (name : Ident) (args : ArgumentList) :
    Except Failure StoredField := do
  args.validate spec
  match args.value? "default_value" with
  | none => .error ((ExpandError.missingArgument "`default_value` argument").at args.span)
  | some default =>
    match default.defaultKind? with
    | none => .error (ExpandError.unsupportedDefaultValue.at default.span)
    | some kind =>
      return { field := { field with attributes := stripAttribute mark field.attributes }
               getter := name
               key := ← keyOf name args
               default, kind
               store := (args.value? "store").getD defaultStore }

/-- The stored field that a field is, if it is marked. -/
def ofField? (defaultStore : Expr) (field : Field) : Except Failure (Option StoredField) :=
  match findAttribute mark field.attributes, field.name with
  | some a, some name => do
    let args ← ArgumentList.ofAttribute a
    return some (← ofArguments defaultStore field name args)
  | _, _ => .ok none

/-! ## Printing -/

/-- The name of the setter. -/
def setter (f : StoredField) : Ident := .prefixed ['s', 'e', 't', '_'] (by decide) f.getter

/-- The tokens of a conversion of a value into the type of the field. -/
def convertTokens (ty value : Tokens) : Tokens :=
  absolute ["core", "convert", "Into"] ++ op "::" ++ op "<" ++ ty ++ op ">" ++ op "::" ++
    kw "into" ++ paren value

/-- The tokens of the value that the getter yields. -/
def readTokens (f : StoredField) : Tokens :=
  let ty := f.field.ty.tokens
  let call (method : Tokens) := kw "store" ++ op "." ++ method ++ paren f.key
  let orDefault := op "." ++ kw "unwrap_or" ++ paren f.default.tokens
  match f.kind with
  | .bool => call (kw "bool") ++ orDefault
  | .integer | .constant =>
    call (kw "decode" ++ op "::" ++ op "<" ++ ty ++ op ">") ++ orDefault
  | .text =>
    kw "match" ++ call (kw "string") ++ brace (eachWithComma [
      absolute ["core", "option", "Option", "Some"] ++ paren (kw "value") ++ op "=>" ++
        convertTokens ty (kw "value"),
      absolute ["core", "option", "Option", "None"] ++ op "=>" ++
        convertTokens ty f.default.tokens])
  | .float =>
    call (kw "float") ++ op "." ++ kw "map" ++
      paren (op "|" ++ kw "value" ++ op "|" ++ kw "value" ++ kw "as" ++ ty) ++ orDefault

/-- The tokens that open the store in an accessor. -/
def openTokens (runtime : Path) (f : StoredField) : Tokens :=
  kw "use" ++ runtime.tokens ++ op "::" ++ kw "KeyValueStore" ++ kw "as" ++ kw "_" ++ op ";" ++
    kw "let" ++ kw "store" ++ op "=" ++ op "&" ++ f.store.tokens ++ op ";"

/-- The tokens of the getter; the field's documentation goes with it. -/
def getterTokens (runtime : Path) (f : StoredField) : Tokens :=
  (f.field.attributes.filter (·.isNamed "doc")).flatMap (·.tokens) ++ f.field.vis.tokens ++
    kw "fn" ++ f.getter.tokens ++ paren (op "&" ++ kw "self") ++ op "->" ++ f.field.ty.tokens ++
    brace (f.openTokens runtime ++ f.readTokens)

/-- The tokens of the setter. -/
def setterTokens (runtime : Path) (f : StoredField) : Tokens :=
  f.field.vis.tokens ++ kw "fn" ++ f.setter.tokens ++
    paren (op "&" ++ kw "self" ++ op "," ++ kw "new_value" ++ op ":" ++ f.field.ty.tokens) ++
    brace (f.openTokens runtime ++ kw "let" ++ kw "_" ++ op "=" ++ kw "store" ++ op "." ++
      kw "store" ++ paren (f.key ++ op "," ++ op "&" ++ kw "new_value") ++ op ";")

end StoredField

namespace StoredAccess

/-- What `#[stored_access]` takes. -/
def spec : ArgumentSpec := ⟨"#[stored_access]", ["crate"], [], .forbidden⟩

/-- The fields that stay, and those that leave, each in order. A comma follows the last field
that stays if it was not the last one before, or if one followed it then. -/
def divide (defaultStore : Expr) (fields : List Field) (trailing : Bool) :
    Except Failure (Fields × List StoredField) := do
  let found ← fields.mapM (StoredField.ofField? defaultStore)
  let kept := (fields.zip found).filterMap fun (f, stored) => if stored.isNone then some f else none
  let lastLeft := match found.getLast? with
    | some stored => stored.isSome
    | none => false
  return (.named kept (trailing || lastLeft), found.filterMap id)

/-- What is left of a struct's fields, and its stored fields. -/
def divideFields (defaultStore : Expr) (fields : Fields) :
    Except Failure (Fields × List StoredField) :=
  match fields with
  | .named list trailing => divide defaultStore list trailing
  | .positional list _ =>
    match list.findSome? fun f => findAttribute StoredField.mark f.attributes with
    | some a => .error ((ExpandError.unsupportedTarget "#[stored]" "a named field").at a.span)
    | none => .ok (fields, [])
  | .unit => .ok (fields, [])

/-- The accessors of a struct. -/
def of (s : StructItem) (runtime : Path) (defaultStore : Expr) : Except Failure StoredAccess := do
  let (fields, stored) ← divideFields defaultStore s.fields
  if stored.isEmpty then .error (ExpandError.noStoredFields.at s.name.span)
  else return ⟨{ s with fields }, stored, runtime⟩

/-- The tokens of the struct and of the implementation that holds its accessors. -/
def tokens (a : StoredAccess) : Tokens :=
  a.remainder.tokens ++ implementation a.remainder.generics none a.remainder.name
    (a.stored.flatMap fun f => f.getterTokens a.runtime ++ f.setterTokens a.runtime)

/-- A struct with accessors for its stored fields. -/
def inContext (args item : Tokens) : InContext Tokens := do
  let args ← ArgumentList.parse args
  args.validate spec
  let c ← .config
  let runtime ← c.runtimeFor args
  let store ← Config.reportAt args.span (c.store runtime)
  match ← Item.parse item with
  | .struct s =>
    let access ← of s runtime store
    .log .debug "synthesizing stored accessors"
      [("target_type", s.name.text), ("accessors", toString access.stored.length)]
    return access.tokens
  | _ => .fail (.unsupportedTarget "#[stored_access]" "a struct") .callSite

/-- What a struct is expanded to, in a context in which nothing has been reported. -/
def expand (c : Config) (args item : Tokens) : Outcome Tokens := (inContext args item).fresh c

/-- A struct without the marks of its stored fields; anything else is left as it is. -/
def withoutMarks (item : Tokens) : Tokens :=
  match StructItem.parse item with
  | .error _ => item
  | .ok s =>
    let clean (f : Field) : Field :=
      { f with attributes := stripAttribute StoredField.mark f.attributes }
    { s with fields := s.fields.map clean : StructItem }.tokens

end StoredAccess

end DeclSynth
