import DeclSynth.Syntax.Tree
import DeclSynth.Token.Build

/-!
# Printing types, paths and bounds

The tokens of a tree. A tree prints as it was written, with one exception: among
parameters or arguments in angle brackets lifetimes come first, whatever their place
was (`lifetimesFirst`).
-/

namespace DeclSynth

/-- The tokens of a lifetime. -/
def Lifetime.tokens (l : Lifetime) : Tokens :=
  [.punct '\'' true l.span, .word l.name l.span]

/-- The tokens of the attributes that stand before what they belong to. -/
def outerAttributes (attributes : List Attribute) : Tokens :=
  (attributes.filter (!·.inner)).flatMap (·.tokens)

/-- The tokens of the attributes that stand inside the braces of what they belong to. -/
def innerAttributes (attributes : List Attribute) : Tokens :=
  (attributes.filter (·.inner)).flatMap (·.tokens)

/-- Pieces with a plus sign between them. -/
def plusses (trailing : Bool) (pieces : List Tokens) : Tokens := separated (op "+") trailing pieces

/-- Pieces between angle brackets, lifetimes before all others and otherwise in order. A comma
follows the last piece if one did before, or if the last piece was a lifetime that moved. -/
def lifetimesFirst (pieces : List (Bool × Tokens)) (trailing : Bool) : Tokens :=
  let lifetimes := pieces.filter (·.1)
  let others := pieces.filter (!·.1)
  let moved := !others.isEmpty && (pieces.getLast?.map (·.1)).getD false
  op "<" ++ separated (op ",") (trailing || moved) ((lifetimes ++ others).map (·.2)) ++ op ">"

/-- The tokens of bounds after their colon; nothing for no bounds. -/
def boundsAfterColon (trailing : Bool) (bounds : List Tokens) : Tokens :=
  if bounds.isEmpty then [] else op ":" ++ plusses trailing bounds

/-- The tokens of a lifetime parameter. -/
def LifetimeParam.tokens (p : LifetimeParam) : Tokens :=
  outerAttributes p.attributes ++ p.lifetime.tokens ++
    boundsAfterColon p.trailingPlus (p.bounds.map Lifetime.tokens)

/-- The tokens of a `for<..>`. -/
def Binder.tokens (b : Binder) : Tokens :=
  kw "for" ++ op "<" ++ separated (op ",") b.trailingComma (b.params.map LifetimeParam.tokens) ++
    op ">"

/-- The tokens of an optional `for<..>`. -/
def binderTokens : Option Binder → Tokens
  | some b => b.tokens
  | none => []

/-- An entry of a `use<..>` bound, marked if it is a lifetime. -/
def Captured.piece : Captured → Bool × Tokens
  | .lifetime l => (true, l.tokens)
  | .param name => (false, name.tokens)

mutual

/-- The tokens of a type. -/
def Ty.tokens : Ty → Tokens
  | .array _ elem length => bracket (elem.tokens ++ op ";" ++ length.tokens)
  | .bareFn _ binder head inputs trailing variadic output =>
    let comma := if variadic.isEmpty || inputs.isEmpty || trailing then [] else op ","
    binderTokens binder ++ head ++
      paren (separated (op ",") trailing (fnPointerInputs inputs) ++ comma ++ variadic) ++
      returnTokens output
  | .group _ elem => elem.tokens
  | .implTrait _ bounds trailing => kw "impl" ++ plusses trailing (boundList bounds)
  | .infer _ => kw "_"
  | .macroCall _ path call => path.tokens ++ call
  | .never _ => op "!"
  | .paren _ elem => paren elem.tokens
  | .path _ none path => path.tokens
  | .path _ (some q) (.mk _ leadingColon segments) =>
    let colon := if leadingColon then op "::" else []
    let pieces := segmentList segments
    match q with
    | .mk ty 0 => op "<" ++ ty.tokens ++ op ">" ++ colon ++ separated (op "::") false pieces
    | .mk ty position =>
      op "<" ++ ty.tokens ++ kw "as" ++ colon ++
        separated (op "::") false (pieces.take position) ++ op ">" ++
        (pieces.drop position).flatMap (op "::" ++ ·)
  | .pointer _ mutable elem => op "*" ++ kw (if mutable then "mut" else "const") ++ elem.tokens
  | .reference _ _ lifetime mutable elem =>
    op "&" ++ (lifetime.map Lifetime.tokens).getD [] ++ (if mutable then kw "mut" else []) ++
      elem.tokens
  | .slice _ elem => bracket elem.tokens
  | .traitObject _ dynWord bounds trailing =>
    (if dynWord then kw "dyn" else []) ++ plusses trailing (boundList bounds)
  | .tuple _ elems trailing =>
    paren (separated (op ",") (trailing || elems.length == 1) (tyList elems))
  | .verbatim _ tokens => tokens

/-- The tokens of a return type, its arrow included; nothing where none is written. -/
def returnTokens : Option Ty → Tokens
  | some ty => op "->" ++ ty.tokens
  | none => []

/-- The tokens of types, one by one. -/
def tyList : List Ty → List Tokens
  | [] => []
  | t :: rest => t.tokens :: tyList rest

/-- The tokens of the parameters of a function pointer, one by one. -/
def fnPointerInputs : List FnPointerInput → List Tokens
  | [] => []
  | .mk attributes name ty :: rest =>
    (outerAttributes attributes ++ (name.map fun n => n.tokens ++ op ":").getD [] ++ ty.tokens) ::
      fnPointerInputs rest

/-- The tokens of a path. -/
def Path.tokens : Path → Tokens
  | .mk _ leadingColon segments =>
    (if leadingColon then op "::" else []) ++ separated (op "::") false (segmentList segments)

/-- The tokens of path segments, one by one. -/
def segmentList : List Segment → List Tokens
  | [] => []
  | .mk name arguments :: rest => (name.tokens ++ arguments.tokens) :: segmentList rest

/-- The tokens of a segment's arguments. -/
def Arguments.tokens : Arguments → Tokens
  | .none => []
  | .angle arguments => arguments.tokens
  | .parenthesized inputs trailing output =>
    paren (separated (op ",") trailing (tyList inputs)) ++ returnTokens output

/-- The tokens of arguments in angle brackets, the turbofish included. -/
def AngleArguments.tokens : AngleArguments → Tokens
  | .mk turbofish arguments trailing =>
    (if turbofish then op "::" else []) ++ lifetimesFirst (genericArgumentList arguments) trailing

/-- The tokens of the arguments of an associated item's name. -/
def angleTokens : Option AngleArguments → Tokens
  | some arguments => arguments.tokens
  | none => []

/-- The tokens of generic arguments, one by one, each marked if it is a lifetime. -/
def genericArgumentList : List GenericArgument → List (Bool × Tokens)
  | [] => []
  | a :: rest =>
    (match a with
      | .lifetime l => (true, l.tokens)
      | .type ty => (false, ty.tokens)
      | .const value => (false, value.tokens)
      | .assocType name generics ty =>
        (false, name.tokens ++ angleTokens generics ++ op "=" ++ ty.tokens)
      | .assocConst name generics value =>
        (false, name.tokens ++ angleTokens generics ++ op "=" ++ value.tokens)
      | .constraint name generics bounds trailing =>
        (false, name.tokens ++ angleTokens generics ++ op ":" ++
          plusses trailing (boundList bounds))) ::
      genericArgumentList rest

/-- The tokens of bounds, one by one. -/
def boundList : List Bound → List Tokens
  | [] => []
  | b :: rest => b.tokens :: boundList rest

/-- The tokens of a bound. -/
def Bound.tokens : Bound → Tokens
  | .trait parenthesized relaxed binder path =>
    let inner := (if relaxed then op "?" else []) ++ binderTokens binder ++ path.tokens
    if parenthesized then paren inner else inner
  | .lifetime l => l.tokens
  | .capture captured trailing =>
    kw "use" ++ lifetimesFirst (captured.map Captured.piece) trailing
  | .verbatim tokens => tokens

end

/-- The tokens of bounds with plus signs between them. -/
def boundsTokens (trailing : Bool) (bounds : List Bound) : Tokens :=
  plusses trailing (boundList bounds)

end DeclSynth
