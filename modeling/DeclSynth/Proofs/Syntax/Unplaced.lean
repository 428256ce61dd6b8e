import DeclSynth.Argument
import DeclSynth.Declaration

/-!
# Trees without places

`unplaced` puts every part of a tree at the call site and leaves the rest as it is, so
two trees are the same, places aside, where their `unplaced` forms are equal. What a
tree prints without places depends on what its parts print without places
(`unplaced_append`, `unplaced_separated`), and what an expression is taken for does
not depend on places at all (`pathOf?_unplaced`, `Path.ident?_unplaced`).
-/

namespace DeclSynth

/-! ## Tokens -/

mutual

/-- A token without its place. -/
def Token.unplaced : Token → Token
  | .word text _ => .word text .callSite
  | .punct char joint _ => .punct char joint .callSite
  | .literal text _ => .literal text .callSite
  | .group delimiter body _ => .group delimiter (Token.unplacedAll body) .callSite

/-- Tokens without their places. -/
def Token.unplacedAll : List Token → List Token
  | [] => []
  | t :: rest => t.unplaced :: Token.unplacedAll rest

end

/-- Tokens without their places. -/
def Tokens.unplaced (ts : Tokens) : Tokens := ts.map Token.unplaced

namespace Tokens

variable {α : Type}

theorem unplacedAll_eq (ts : Tokens) : Token.unplacedAll ts = ts.unplaced := by
  induction ts with
  | nil => rfl
  | cons t rest ih => exact congrArg (t.unplaced :: ·) ih

@[simp] theorem unplaced_append (ts us : Tokens) :
    unplaced (ts ++ us) = ts.unplaced ++ us.unplaced := List.map_append

@[simp] theorem unplaced_flatMap (l : List α) (f : α → Tokens) :
    unplaced (l.flatMap f) = l.flatMap fun a => (f a).unplaced := List.map_flatMap

@[simp] theorem unplaced_group (d : Delimiter) (body : Tokens) (s : Span) :
    unplaced [.group d body s] = [.group d body.unplaced .callSite] := by
  rw [← unplacedAll_eq body]
  rfl

@[simp] theorem unplaced_paren (ts : Tokens) : unplaced (paren ts) = paren ts.unplaced :=
  unplaced_group _ ts _

@[simp] theorem unplaced_brace (ts : Tokens) : unplaced (brace ts) = brace ts.unplaced :=
  unplaced_group _ ts _

/-- **What is written between pieces stays between them.** -/
@[simp] theorem unplaced_separated (separator : Tokens) (trailing : Bool) (pieces : List Tokens) :
    unplaced (separated separator trailing pieces) =
      separated separator.unplaced trailing (pieces.map unplaced) := by
  induction pieces with
  | nil => rfl
  | cons piece rest ih =>
    cases rest with
    | nil => cases trailing <;> simp [separated]
    | cons next rest =>
      rw [separated, unplaced_append, unplaced_append, ih]
      · rfl
      · exact nofun

end Tokens

/-! ## Names -/

/-- A name without its place. -/
def Ident.unplaced (i : Ident) : Ident := { i with span := .callSite }

namespace Ident

variable {i j : Ident}

@[simp] theorem text_unplaced (i : Ident) : i.unplaced.text = i.text := rfl

@[simp] theorem plainText_unplaced (i : Ident) : i.unplaced.plainText = i.plainText := rfl

@[simp] theorem unplaced_tokens_unplaced (i : Ident) :
    i.unplaced.tokens.unplaced = i.tokens.unplaced := rfl

/-- Names that are the same print the same. -/
theorem tokens_congr (h : i.unplaced = j.unplaced) : i.tokens.unplaced = j.tokens.unplaced := by
  rw [← unplaced_tokens_unplaced, h, unplaced_tokens_unplaced]

/-- **Two names are the same where they are spelled alike.** -/
theorem unplaced_eq_iff : i.unplaced = j.unplaced ↔ i.text = j.text := by
  obtain ⟨text, span, valid⟩ := i
  obtain ⟨text', span', valid'⟩ := j
  simp [unplaced]

end Ident

/-- A lifetime without its place. -/
def Lifetime.unplaced (l : Lifetime) : Lifetime := { l with span := .callSite }

/-- An entry of a `use<..>` bound without its place. -/
def Captured.unplaced : Captured → Captured
  | lifetime l => lifetime l.unplaced
  | param name => param name.unplaced

/-! ## Attributes, types, paths and expressions -/

mutual

/-- The form of an attribute without places. -/
def AttributeForm.unplaced : AttributeForm → AttributeForm
  | .path => .path
  | .list body _ => .list body.unplaced .callSite
  | .nameValue _ value => .nameValue .callSite value.unplaced

/-- An attribute without places. -/
def Attribute.unplaced : Attribute → Attribute
  | ⟨inner, leadingColon, path, form, tokens, _⟩ =>
    ⟨inner, leadingColon, path.map Ident.unplaced, form.unplaced, tokens.unplaced, .callSite⟩

/-- Attributes without places. -/
def unplacedAttributes : List Attribute → List Attribute
  | [] => []
  | a :: rest => a.unplaced :: unplacedAttributes rest

/-- A lifetime parameter without places. -/
def LifetimeParam.unplaced : LifetimeParam → LifetimeParam
  | ⟨attributes, l, bounds, trailing⟩ =>
    ⟨unplacedAttributes attributes, l.unplaced, bounds.map Lifetime.unplaced, trailing⟩

/-- Lifetime parameters without places. -/
def unplacedParams : List LifetimeParam → List LifetimeParam
  | [] => []
  | p :: rest => p.unplaced :: unplacedParams rest

/-- The lifetimes of a `for<..>` without places, where there is one. -/
def unplacedBinder? : Option Binder → Option Binder
  | none => none
  | some ⟨params, trailing⟩ => some ⟨unplacedParams params, trailing⟩

/-- A type without places. -/
def Ty.unplaced : Ty → Ty
  | .array _ elem length => .array .callSite elem.unplaced length.unplaced
  | .bareFn _ binder head inputs trailing variadic output =>
    .bareFn .callSite (unplacedBinder? binder) head.unplaced (unplacedInputs inputs) trailing
      variadic.unplaced (unplacedTy? output)
  | .group _ elem => .group .callSite elem.unplaced
  | .implTrait _ bounds trailing => .implTrait .callSite (unplacedBounds bounds) trailing
  | .infer _ => .infer .callSite
  | .macroCall _ path call => .macroCall .callSite path.unplaced call.unplaced
  | .never _ => .never .callSite
  | .paren _ elem => .paren .callSite elem.unplaced
  | .path _ self path => .path .callSite (unplacedSelf? self) path.unplaced
  | .pointer _ mutable elem => .pointer .callSite mutable elem.unplaced
  | .reference _ _ lifetime mutable elem =>
    .reference .callSite .callSite (lifetime.map Lifetime.unplaced) mutable elem.unplaced
  | .slice _ elem => .slice .callSite elem.unplaced
  | .traitObject _ dynWord bounds trailing =>
    .traitObject .callSite dynWord (unplacedBounds bounds) trailing
  | .tuple _ elems trailing => .tuple .callSite (unplacedTys elems) trailing
  | .verbatim _ tokens => .verbatim .callSite tokens.unplaced

/-- A type without places, where there is one. -/
def unplacedTy? : Option Ty → Option Ty
  | none => none
  | some ty => some ty.unplaced

/-- Types without places. -/
def unplacedTys : List Ty → List Ty
  | [] => []
  | ty :: rest => ty.unplaced :: unplacedTys rest

/-- The parameters of a function pointer without places. -/
def unplacedInputs : List FnPointerInput → List FnPointerInput
  | [] => []
  | .mk attributes name ty :: rest =>
    .mk (unplacedAttributes attributes) (name.map Ident.unplaced) ty.unplaced ::
      unplacedInputs rest

/-- The qualification of a path without places. -/
def unplacedSelf? : Option QSelf → Option QSelf
  | none => none
  | some (.mk ty position) => some (.mk ty.unplaced position)

/-- A path without places. -/
def Path.unplaced : Path → Path
  | .mk _ leadingColon segments => .mk .callSite leadingColon (unplacedSegments segments)

/-- Path segments without places. -/
def unplacedSegments : List Segment → List Segment
  | [] => []
  | .mk name arguments :: rest =>
    .mk name.unplaced arguments.unplaced :: unplacedSegments rest

/-- The arguments of a segment without places. -/
def Arguments.unplaced : Arguments → Arguments
  | .none => .none
  | .angle arguments => .angle arguments.unplaced
  | .parenthesized inputs trailing output =>
    .parenthesized (unplacedTys inputs) trailing (unplacedTy? output)

/-- Arguments in angle brackets without places. -/
def AngleArguments.unplaced : AngleArguments → AngleArguments
  | .mk turbofish arguments trailing => .mk turbofish (unplacedGenerics arguments) trailing

/-- Arguments in angle brackets without places, where there are any. -/
def unplacedAngle? : Option AngleArguments → Option AngleArguments
  | none => none
  | some arguments => some arguments.unplaced

/-- Generic arguments without places. -/
def unplacedGenerics : List GenericArgument → List GenericArgument
  | [] => []
  | a :: rest =>
    (match a with
      | .lifetime l => .lifetime l.unplaced
      | .type ty => .type ty.unplaced
      | .const value => .const value.unplaced
      | .assocType name generics ty =>
        .assocType name.unplaced (unplacedAngle? generics) ty.unplaced
      | .assocConst name generics value =>
        .assocConst name.unplaced (unplacedAngle? generics) value.unplaced
      | .constraint name generics bounds trailing =>
        .constraint name.unplaced (unplacedAngle? generics) (unplacedBounds bounds) trailing) ::
      unplacedGenerics rest

/-- Bounds without places. -/
def unplacedBounds : List Bound → List Bound
  | [] => []
  | b :: rest =>
    (match b with
      | .trait parenthesized relaxed binder path =>
        .trait parenthesized relaxed (unplacedBinder? binder) path.unplaced
      | .lifetime l => .lifetime l.unplaced
      | .capture captured trailing => .capture (captured.map Captured.unplaced) trailing
      | .verbatim tokens => .verbatim tokens.unplaced) ::
      unplacedBounds rest

/-- An expression without places. -/
def Expr.unplaced : Expr → Expr
  | .mk _ tokens mentions outline =>
    .mk .callSite tokens.unplaced (unplacedMentions mentions) outline.unplaced

/-- What is mentioned, without places. -/
def unplacedMentions : List Mention → List Mention
  | [] => []
  | .type ty :: rest => .type ty.unplaced :: unplacedMentions rest
  | .lifetime l :: rest => .lifetime l.unplaced :: unplacedMentions rest

/-- Expressions without places. -/
def unplacedExprs : List Expr → List Expr
  | [] => []
  | e :: rest => e.unplaced :: unplacedExprs rest

/-- An outline without places. -/
def Outline.unplaced : Outline → Outline
  | .literal text _ => .literal text .callSite
  | .path qualified path => .path qualified path.unplaced
  | .negation operand => .negation operand.unplaced
  | .paren inner => .paren inner.unplaced
  | .array elems => .array (unplacedExprs elems)
  | .range => .range
  | .comparison => .comparison
  | .block => .block
  | .macroCall braced => .macroCall braced
  | .verbatim => .verbatim
  | .other => .other

end

theorem unplacedExprs_eq (es : List Expr) : unplacedExprs es = es.map Expr.unplaced := by
  induction es with
  | nil => rfl
  | cons e rest ih => exact congrArg (e.unplaced :: ·) ih

namespace Attribute

@[simp] theorem tokens_unplaced (a : Attribute) : a.unplaced.tokens = a.tokens.unplaced := by
  cases a
  rfl

@[simp] theorem isNamed_unplaced (a : Attribute) (name : String) :
    a.unplaced.isNamed name = a.isNamed name := by
  obtain ⟨inner, leadingColon, path, form, tokens, span⟩ := a
  rcases path with _ | ⟨i, _ | ⟨j, rest⟩⟩ <;> rfl

end Attribute

namespace Expr

@[simp] theorem tokens_unplaced (e : Expr) : e.unplaced.tokens = e.tokens.unplaced := by
  cases e
  rfl

/-- Expressions that are the same print the same. -/
theorem tokens_congr {e e' : Expr} (h : e.unplaced = e'.unplaced) :
    e.tokens.unplaced = e'.tokens.unplaced := by
  rw [← tokens_unplaced, h, tokens_unplaced]

@[simp] theorem outline_unplaced (e : Expr) : e.unplaced.outline = e.outline.unplaced := by
  cases e
  rfl

end Expr

/-! ## What trees are taken for -/

/-- **The path that an expression is stays that path.** -/
theorem ArgumentList.pathOf?_unplaced (e : Expr) :
    pathOf? e.unplaced = (pathOf? e).map Path.unplaced := by
  unfold pathOf?
  rw [e.outline_unplaced]
  cases e.outline with
  | path qualified path => cases qualified <;> rfl
  | _ => rfl

/-- **The name that a path is stays that name.** -/
theorem Path.ident?_unplaced (p : Path) : p.unplaced.ident? = p.ident?.map Ident.unplaced := by
  obtain ⟨span, leadingColon, segments⟩ := p
  cases leadingColon with
  | true => rfl
  | false =>
    rcases segments with _ | ⟨⟨name, arguments⟩, _ | ⟨next, rest⟩⟩
    · rfl
    · cases arguments <;> rfl
    · cases arguments <;> cases next <;> rfl

end DeclSynth
