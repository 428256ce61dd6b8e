import DeclSynth.Syntax.Grammar.Path

/-!
# The grammar of types

One rule for each form, chosen by the tokens in front. A form gives the type but for its
span; `typeRule` adds the span and writes the type as its tree prints. Whoever reads a type
mentions it, so that an expression knows the types inside it.
-/

namespace DeclSynth.Grammar

open DeclSynth.Parser

/-- A type that lacks its place. -/
abbrev Unplaced := Span → Ty

/-- What stands between the parentheses of a type. -/
inductive Parenthesized where
  | tuple (elems : List Ty) (trailingComma : Bool)
  | relaxed (bound : Bound)
  | object (ty : Ty)
  | type (ty : Ty)

/-- Whether a bound is a trait, or a form that is kept unread. -/
def isTrait : Bound → Bool
  | .trait .. | .verbatim _ => true
  | .lifetime _ | .capture .. => false

/-- Stops unless one of the bounds behind a word is a trait. -/
def requireTrait (word : Span) (rule : Restriction) (list : Separated Bound) : Parser Unit := do
  if list.values.any isTrait then return
  let taken := (← get).last
  let last := match list.values.getLast? with
    | some (.lifetime l) => l.span
    | _ => taken
  failAt (word.join last) (.restriction rule)

/-- A trait object without the word `dyn`, made of the bounds that come next. -/
def bareObject (g : Grammar) : Parser Ty := do
  let (list, span) ← spanned (bounds g true false false)
  requireTrait span.opening .objectWithoutTrait list
  return .traitObject span false list.values list.trailing

/-- What a pair of parentheses holds. -/
def betweenParentheses (g : Grammar) : Parser Parenthesized := do
  if ← atEnd then return .tuple [] false
  if ← peek isLifetime then return .object (← bareObject g)
  if ← peek (isOp "?") then
    match ← traitBound g false with
    | some (.trait _ relaxed binding path) => return .relaxed (.trait true relaxed binding path)
    | _ => expected []
  let first ← g.ty true
  if ← peek (isOp ",") then
    let _ ← sign ","
    let rest ← commaSeparated (g.ty true)
    return .tuple (first :: rest.values) (rest.values.isEmpty || rest.trailing)
  return .type first

/-- The bound that a type in parentheses is, if bounds may be added to it. -/
def boundOf? : Ty → Option Bound
  | .path _ none path => some (.trait true false none path)
  | .traitObject _ false [.trait _ relaxed binding path] false =>
    some (.trait true relaxed binding path)
  | .traitObject _ false [b] false => some b
  | _ => none

/-- More bounds, each after a plus sign. -/
def addedBounds (g : Grammar) (first : Bound) : Parser (List Bound) := do
  let more ← whilePeek (isOp "+") (do let _ ← sign "+"; g.bound false false)
  return first :: more

/-- A type in parentheses: a tuple, a single type, or the first bound of a trait object. -/
def parenthesizedType (g : Grammar) (plus : Bool) : Parser Unplaced := do
  match ← inside .parenthesis (betweenParentheses g) with
  | .tuple elems trailing => return fun span => .tuple span elems trailing
  | .object ty => return fun span => .paren span ty
  | .relaxed bound =>
    let bounds ← addedBounds g bound
    return fun span => .traitObject span false bounds false
  | .type ty =>
    if plus && (← peek (isOp "+")) then
      match boundOf? ty with
      | some bound =>
        let bounds ← addedBounds g bound
        return fun span => .traitObject span false bounds false
      | none => return fun span => .paren span ty
    else return fun span => .paren span ty

/-- A linkage: the word `extern`, and the string that names it if there is one. -/
def linkage? : Parser Unit := do
  if ← peek (isKw "extern") then
    let _ ← keyword "extern"
    if ← peek (isLiteralOf .text) then
      let _ ← stringLiteral

/-- Whether a name or an underscore comes first. -/
def isBinding (ts : Tokens) : Bool := isName ts || isKw "_" ts

/-- Whether a name's colon comes first. -/
def isColon (ts : Tokens) : Bool := isOp ":" ts && !isOp "::" ts

/-- A name and its colon, if the next tokens are both. -/
def labelOf? (isLabel : Tokens → Bool) : Parser (Option Ident) := do
  if (← peek isLabel) && (← peek2 isColon) then
    let name ← anyIdent
    let _ ← sign ":"
    return some name
  else return none

/-- A parameter of a function pointer. The first one may be written like a receiver, which is
kept unread. -/
def fnPointerInput (g : Grammar) (attributes : List Attribute) (first : Bool) :
    Parser FnPointerInput := do
  let (((mutSelf, name, ty), tokens), span) ← spanned <| verbatim do
    let mutSelf := first && (← peek (isKw "mut")) && (← peek2 (isKw "self"))
    if mutSelf then
      let _ ← keyword "mut"
    let name ← labelOf? fun ts => isBinding ts || (first && isKw "self" ts)
    if mutSelf && name.isNone then
      let _ ← keyword "self"
      return (true, none, none)
    return (mutSelf, name, some (← g.ty true))
  match ty with
  | some ty => if !mutSelf then return .mk attributes name ty
  | none => pure ()
  return .mk attributes none (.verbatim span tokens)

/-- The variadic end of a function pointer's parameters: attributes, a name if there is one,
three dots and a comma. -/
def fnPointerVariadic : Parser Unit := do
  if ← peek isBinding then
    let _ ← anyIdent
    let _ ← sign ":"
  let _ ← sign "..."
  let _ ← sign? ","

/-- The parameters of a function pointer with their variadic end. -/
def fnPointerInputs (g : Grammar) : Parser (Separated FnPointerInput × Tokens) :=
  iterate (σ := List FnPointerInput × Bool) (fun (inputs, trailing) => do
    let done := (⟨inputs.reverse, trailing⟩ : Separated FnPointerInput)
    if ← atEnd then return .inr (done, [])
    let (attributes, written) ← captured (attributes g)
    let named := (← peek isBinding) && (← peek2 (isOp ":")) && (← peek3 (isOp "..."))
    if (inputs.isEmpty || trailing) && ((← peek (isOp "...")) || named) then
      let (_, dots) ← captured fnPointerVariadic
      return .inr (done, written ++ dots)
    let input ← fnPointerInput g attributes inputs.isEmpty
    if ← atEnd then return .inr (⟨(input :: inputs).reverse, false⟩, [])
    let _ ← sign ","
    return .inl (input :: inputs, true)) ([], false)

/-- A function pointer type behind its binder. -/
def bareFn (g : Grammar) (binding : Option Binder) : Parser Unplaced := do
  let (_, head) ← captured do
    let _ ← keyword? "unsafe"
    linkage?
    let _ ← keyword "fn"
  let (inputs, variadic) ← inside .parenthesis (fnPointerInputs g)
  let output ← returnType g false
  return fun span => .bareFn span binding head inputs.values inputs.trailing variadic output

/-- A type that starts with a path: the path, a macro call, or a trait object that lacks the word
`dyn`. -/
def pathForm (g : Grammar) (plus : Bool) (binding : Option Binder) : Parser Unplaced := do
  let (q, path) ← qualifiedPath g false
  if q.isSome then return fun span => .path span q path
  if (← peek isCall) && path.isPlain then
    let (_, call) ← captured macroCall
    return fun span => .macroCall span path call
  let first := Bound.trait false false binding path
  if !plus then
    if binding.isSome then return fun span => .traitObject span false [first] false
    return fun span => .path span none path
  let more ← iterate (σ := List Bound) (fun found => do
    if !(← peek (isOp "+")) then return .inr (⟨found.reverse, false⟩ : Separated Bound)
    let _ ← sign "+"
    if !(← peek isBoundStart) then return .inr ⟨found.reverse, true⟩
    return .inl ((← g.bound false false) :: found)) []
  if binding.isNone && more.values.isEmpty && !more.trailing then
    return fun span => .path span none path
  return fun span => .traitObject span false (first :: more.values) more.trailing

/-- A trait object with the word `dyn`. With a star behind the word it is kept unread. -/
def dynForm (g : Grammar) (plus : Bool) : Parser Unplaced := do
  let ((starred, list), tokens) ← verbatim do
    let word ← keyword "dyn"
    let starred ← sign? "*"
    let list ← bounds g plus false false
    requireTrait word .objectWithoutTrait list
    return (starred, list)
  if starred then return fun span => .verbatim span tokens
  return fun span => .traitObject span true list.values list.trailing

/-- An opaque type. -/
def implForm (g : Grammar) (plus : Bool) : Parser Unplaced := do
  let word ← keyword "impl"
  let list ← bounds g plus true true
  requireTrait word .boundsWithoutTrait list
  return fun span => .implTrait span list.values list.trailing

/-- A slice or an array. -/
def bracketForm (g : Grammar) : Parser Unplaced :=
  inside .bracket do
    let elem ← g.ty true
    if ← sign? ";" then
      let length ← g.expr true
      return fun span => .array span elem length
    return fun span => .slice span elem

/-- A pointer. -/
def pointerForm (g : Grammar) : Parser Unplaced := do
  let _ ← sign "*"
  let constant ← keyword? "const"
  let mutable ← if constant.isSome then pure none else keyword? "mut"
  if constant.isNone && mutable.isNone then expected [.token "const", .token "mut"]
  let elem ← g.ty false
  return fun span => .pointer span mutable.isSome elem

/-- A reference. -/
def referenceForm (g : Grammar) : Parser Unplaced := do
  let ampersand ← sign "&"
  let l ← lifetime?
  let mutable ← keyword? "mut"
  let elem ← g.ty false
  return fun span => .reference span ampersand l mutable.isSome elem

/-- The words that start a function pointer. -/
def isFnStart (ts : Tokens) : Bool := ["fn", "unsafe", "extern"].any (isKw · ts)

/-- The words that start a path though no name may be one of them. -/
def isPathRoot (ts : Tokens) : Bool := ["super", "self", "Self", "crate"].any (isKw · ts)

/-- What a type may start with behind a binder. -/
def afterBinder : List Wanted :=
  [.kind "identifier", .token "fn", .token "unsafe", .token "extern", .token "super",
    .token "self", .token "Self", .token "crate"]

/-- What a type may start with. -/
def typeStarts : List Wanted :=
  [.token "for", .kind "parentheses", .token "fn", .token "unsafe", .token "extern",
    .kind "identifier", .token "::", .token "<", .token "dyn", .kind "square brackets",
    .token "*", .token "&", .token "!", .token "impl", .token "_", .kind "lifetime"]

/-- A type, but for its place. -/
def typeForm (g : Grammar) (plus : Bool) : Parser Unplaced := do
  let binding ← binder? g
  if binding.isSome && !(← peekAny [isName, isFnStart, isPathRoot]) then expected afterBinder
  if ← peek (isGroup .parenthesis) then parenthesizedType g plus
  else if ← peek isFnStart then bareFn g binding
  else if ← peekAny [isName, isPathRoot, isOp "::", isOp "<"] then pathForm g plus binding
  else if ← peek (isKw "dyn") then dynForm g plus
  else if ← peek (isGroup .bracket) then bracketForm g
  else if ← peek (isOp "*") then pointerForm g
  else if ← peek (isOp "&") then referenceForm g
  else if ← peek (isOp "!") then do
    let _ ← sign "!"
    return .never
  else if ← peek (isKw "impl") then implForm g plus
  else if ← peek (isKw "_") then do
    let _ ← keyword "_"
    return .infer
  else if ← peek isLifetime then do
    let object ← bareObject g
    return fun _ => object
  else expected typeStarts

/-- A type; bounds may be added to a path with plus signs if `plus`. -/
def typeRule (g : Grammar) (plus : Bool) : Parser Ty := do
  let ty ← rendered Ty.tokens do
    let ((make, _), span) ← spanned (mentioning (typeForm g plus))
    return make span
  mention (.type ty)
  return ty

/-- A bound, mentioned as a type. -/
def boundRule (g : Grammar) (allowCapture constant : Bool) : Parser Bound := do
  let ((b, _), span) ←
    spanned (mentioning (rendered Bound.tokens (oneBound g allowCapture constant)))
  mention (.type (.traitObject span false [b] false))
  return b

end DeclSynth.Grammar
