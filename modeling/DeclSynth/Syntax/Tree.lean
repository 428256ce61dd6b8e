import DeclSynth.Token
import DeclSynth.Token.Ident

/-!
# Syntax trees: types, paths and bounds

The part of the language that expanders look into, type by type. Lists of things with a
separator between them keep whether the separator also follows the last one, because a
tree prints as it was written. An expression keeps the tokens it prints, the types and
lifetimes it mentions, and its outline: the few forms that arguments and default values
are told apart by. `Syntax.Item` builds declarations from these.
-/

namespace DeclSynth

/-- A lifetime: its name without the quote, and where it stands. -/
structure Lifetime where
  name : String
  span : Span
deriving DecidableEq, Repr, Inhabited

/-- An entry of a `use<..>` bound. -/
inductive Captured where
  | lifetime (lifetime : Lifetime)
  | param (name : Ident)

mutual

/-- What stands behind the path of an attribute. -/
inductive AttributeForm where
  /-- Nothing: `#[path]`. -/
  | path
  /-- A delimited list of tokens, and where its closing delimiter stands. -/
  | list (body : Tokens) (closing : Span)
  /-- `= value`; the span runs from the path to the value. -/
  | nameValue (span : Span) (value : Expr)

/-- An attribute: its path, its form, and the tokens it prints. -/
structure Attribute where
  inner : Bool
  leadingColon : Bool
  path : List Ident
  form : AttributeForm
  tokens : Tokens
  span : Span

/-- A lifetime parameter: attributes, the lifetime, and the lifetimes it outlives. -/
structure LifetimeParam where
  attributes : List Attribute
  lifetime : Lifetime
  bounds : List Lifetime
  trailingPlus : Bool

/-- The lifetimes that a `for<..>` binds. -/
structure Binder where
  params : List LifetimeParam
  trailingComma : Bool

/-- A type. -/
inductive Ty where
  /-- `[elem; len]` -/
  | array (span : Span) (elem : Ty) (length : Expr)
  /-- `fn(..) -> output`; `head` holds the words before the parentheses, after any binder. -/
  | bareFn (span : Span) (binder : Option Binder) (head : Tokens) (inputs : List FnPointerInput)
      (trailingComma : Bool) (variadic : Tokens) (output : Option Ty)
  /-- A type between invisible delimiters. -/
  | group (span : Span) (elem : Ty)
  /-- `impl A + B` -/
  | implTrait (span : Span) (bounds : List Bound) (trailingPlus : Bool)
  /-- `_` -/
  | infer (span : Span)
  /-- `path!(..)`; `call` holds the tokens behind the path. -/
  | macroCall (span : Span) (path : Path) (call : Tokens)
  /-- `!` -/
  | never (span : Span)
  /-- `(elem)` -/
  | paren (span : Span) (elem : Ty)
  /-- `A::B`, or with a qualified self. -/
  | path (span : Span) (self : Option QSelf) (path : Path)
  /-- `*const elem` or `*mut elem` -/
  | pointer (span : Span) (mutable : Bool) (elem : Ty)
  /-- `&'a mut elem`; `ampersand` is where the sign stands. -/
  | reference (span : Span) (ampersand : Span) (lifetime : Option Lifetime) (mutable : Bool)
      (elem : Ty)
  /-- `[elem]` -/
  | slice (span : Span) (elem : Ty)
  /-- `dyn A + B`; the word may be missing. -/
  | traitObject (span : Span) (dynWord : Bool) (bounds : List Bound) (trailingPlus : Bool)
  /-- `(A, B)` -/
  | tuple (span : Span) (elems : List Ty) (trailingComma : Bool)
  /-- Tokens kept as they were written. -/
  | verbatim (span : Span) (tokens : Tokens)

/-- A parameter of a function pointer, with its name and colon if it has one. -/
inductive FnPointerInput where
  | mk (attributes : List Attribute) (name : Option Ident) (ty : Ty)

/-- The `<T as A::B>` that qualifies a path; `position` of the path's segments stand inside it. -/
inductive QSelf where
  | mk (ty : Ty) (position : Nat)

/-- Segments joined by `::`, perhaps after a leading one. -/
inductive Path where
  | mk (span : Span) (leadingColon : Bool) (segments : List Segment)

/-- A name in a path, with its arguments. -/
inductive Segment where
  | mk (name : Ident) (arguments : Arguments)

/-- The arguments of a path segment. -/
inductive Arguments where
  | none
  /-- `<A, B>` -/
  | angle (arguments : AngleArguments)
  /-- `(A, B) -> C`, as the function traits are written. -/
  | parenthesized (inputs : List Ty) (trailingComma : Bool) (output : Option Ty)

/-- `<A, B>`, or `::<A, B>` with the turbofish. -/
inductive AngleArguments where
  | mk (turbofish : Bool) (arguments : List GenericArgument) (trailingComma : Bool)

/-- One argument between angle brackets. -/
inductive GenericArgument where
  | lifetime (lifetime : Lifetime)
  | type (ty : Ty)
  | const (value : Expr)
  /-- `Name = Ty` -/
  | assocType (name : Ident) (generics : Option AngleArguments) (ty : Ty)
  /-- `Name = value` -/
  | assocConst (name : Ident) (generics : Option AngleArguments) (value : Expr)
  /-- `Name: A + B` -/
  | constraint (name : Ident) (generics : Option AngleArguments) (bounds : List Bound)
      (trailingPlus : Bool)

/-- A bound on a type. -/
inductive Bound where
  /-- A trait, perhaps in parentheses, perhaps relaxed by `?`. -/
  | trait (parenthesized : Bool) (relaxed : Bool) (binder : Option Binder) (path : Path)
  | lifetime (lifetime : Lifetime)
  /-- `use<..>` -/
  | capture (captured : List Captured) (trailingComma : Bool)
  /-- Tokens kept as they were written. -/
  | verbatim (tokens : Tokens)

/-- An expression: where it stands, what it prints, what it mentions from left to right, and its
outline. What stands in tokens that are kept as they were written is not mentioned. -/
inductive Expr where
  | mk (span : Span) (tokens : Tokens) (mentions : List Mention) (outline : Outline)

/-- What an expression mentions. -/
inductive Mention where
  /-- A type; a path with arguments is mentioned as one. -/
  | type (ty : Ty)
  /-- A label, or a lifetime that is bound inside the expression. -/
  | lifetime (lifetime : Lifetime)

/-- What an expression is, as far as it matters. -/
inductive Outline where
  /-- A literal, or one of the words `true` and `false`, without its attributes. -/
  | literal (text : String) (span : Span)
  /-- A path, `qualified` if it starts with a type in angle brackets. -/
  | path (qualified : Bool) (path : Path)
  /-- `-operand` -/
  | negation (operand : Expr)
  /-- `(inner)` -/
  | paren (inner : Expr)
  /-- `[a, b]` -/
  | array (elems : List Expr)
  /-- `a..b` -/
  | range
  /-- `a < b` and its like. -/
  | comparison
  /-- A form that ends in a block and may stand as a statement. -/
  | block
  /-- A macro call, `braced` if its tokens stand between curly braces. -/
  | macroCall (braced : Bool)
  /-- Tokens kept as they were written. -/
  | verbatim
  /-- Any other form. -/
  | other

end

/-- Whether the attribute's path is this one word. -/
def Attribute.isNamed (a : Attribute) (name : String) : Bool :=
  !a.leadingColon && match a.path with
    | [i] => i.text == name
    | _ => false

namespace Ty

/-- Where the type stands. -/
def span : Ty → Span
  | array span .. | bareFn span .. | group span .. | implTrait span .. | infer span
  | macroCall span .. | never span | paren span .. | path span .. | pointer span ..
  | reference span .. | slice span .. | traitObject span .. | tuple span ..
  | verbatim span .. => span

end Ty

namespace Path

/-- Where the path stands. -/
def span : Path → Span
  | mk span _ _ => span

/-- Whether the path starts with `::`. -/
def leadingColon : Path → Bool
  | mk _ leadingColon _ => leadingColon

/-- The segments of the path. -/
def segments : Path → List Segment
  | mk _ _ segments => segments

end Path

namespace Segment

/-- The name of the segment. -/
def name : Segment → Ident
  | mk name _ => name

/-- The arguments of the segment. -/
def arguments : Segment → Arguments
  | mk _ arguments => arguments

/-- Whether the segment is a name alone. -/
def isBare : Segment → Bool
  | mk _ .none => true
  | _ => false

end Segment

namespace Path

/-- Whether no segment has arguments. -/
def isPlain (p : Path) : Bool := p.segments.all Segment.isBare

/-- The name that the path consists of, if it is a single one. -/
def ident? (p : Path) : Option Ident :=
  match p with
  | mk _ false [.mk name .none] => some name
  | _ => none

/-- Whether the path is this one name. -/
def isIdent (p : Path) (name : String) : Bool :=
  match p.ident? with
  | some i => i.text == name
  | none => false

end Path

namespace Expr

/-- Where the expression stands. -/
def span : Expr → Span
  | mk span _ _ _ => span

/-- What the expression prints. -/
def tokens : Expr → Tokens
  | mk _ tokens _ _ => tokens

/-- What the expression mentions, from left to right. -/
def mentions : Expr → List Mention
  | mk _ _ mentions _ => mentions

/-- The outline of the expression. -/
def outline : Expr → Outline
  | mk _ _ _ outline => outline

end Expr

/-- A bound that was neither parenthesized nor relaxed: one trait path. -/
def Bound.ofPath (p : Path) : Bound := .trait false false none p

end DeclSynth
