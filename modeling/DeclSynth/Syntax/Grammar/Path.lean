import DeclSynth.Syntax.Grammar.Basic

/-!
# The grammar of paths and bounds

Paths come in two styles. In a type the arguments of a segment may follow its name
directly; in an expression they need the turbofish, since `<` would be a comparison.
-/

namespace DeclSynth.Grammar

open DeclSynth.Parser

/-- The constant that a generic parameter or argument is given: a literal, a name or a block. -/
def constArgument (g : Grammar) : Parser Expr := do
  if ← peek isLiteral then exprOf literalOutline
  else if ← peek isName then
    exprOf do
      let name ← ident
      return .path false (.mk name.span false [.mk name .none])
  else if ← peek (isGroup .brace) then
    exprOf do
      attributedBlock g
      return .block
  else expected []

/-- The result type behind an arrow, if there is one. -/
def returnType (g : Grammar) (plus : Bool) : Parser (Option Ty) := do
  if ← sign? "->" then return some (← g.ty plus) else return none

/-- Whether a bound may follow a plus sign here. -/
def isBoundStart (ts : Tokens) : Bool :=
  isWord ts || isOp "::" ts || isOp "?" ts || isLifetime ts || isGroup .parenthesis ts

/-- One argument between angle brackets. A name alone may go on as an associated item. -/
def genericArgument (g : Grammar) : Parser GenericArgument := do
  if (← peek isLifetime) && !(← peek2 (isOp "+")) then return .lifetime (← lifetime)
  if ← peekAny [isLiteral, isGroup .brace] then return .const (← constArgument g)
  let ty ← g.ty true
  let item : Option (Ident × Option AngleArguments) := match ty with
    | .path _ none (.mk _ false [.mk name .none]) => some (name, none)
    | .path _ none (.mk _ false [.mk name (.angle list)]) => some (name, some list)
    | _ => none
  match item with
  | none => return .type ty
  | some (name, generics) =>
    if ← sign? "=" then
      if ← peekAny [isLiteral, isGroup .brace] then
        return .assocConst name generics (← constArgument g)
      return .assocType name generics (← g.ty true)
    if ← sign? ":" then
      let bounds ← separatedWith "+" (peekAny [isOp ",", isOp ">"])
        (return !(← peek (isOp "+"))) (g.bound false true)
      return .constraint name generics bounds.values bounds.trailing
    return .type ty

/-- Arguments between angle brackets, after the turbofish if there is one. -/
def angleArguments (g : Grammar) : Parser AngleArguments :=
  rendered AngleArguments.tokens do
    let turbofish ← sign? "::"
    let _ ← sign "<"
    let list ← separatedWith "," (peek (isOp ">")) (peek (isOp ">")) (genericArgument g)
    let _ ← sign ">"
    return .mk turbofish list.values list.trailing

/-- Whether the arguments of a function trait come next, perhaps after `::`. -/
def startsParenthesized : Parser Bool := do
  if ← peek (isGroup .parenthesis) then return true
  return (← peek (isOp "::")) && (← peek3 (isGroup .parenthesis))

/-- The arguments of a function trait: types in parentheses and a result. A `::` before them
is not kept. -/
def parenthesizedArguments (g : Grammar) : Parser Arguments := do
  let _ ← captured (sign? "::")
  let inputs ← inside .parenthesis (commaSeparated (g.ty true))
  return .parenthesized inputs.values inputs.trailing (← returnType g false)

/-- Whether a word that paths reserve for themselves comes first. -/
def isPathKeyword (ts : Tokens) : Bool := ["super", "self", "crate", "try"].any (isKw · ts)

/-- One segment of a path. -/
def segment (g : Grammar) (inExpr : Bool) : Parser Segment := do
  if ← peek isPathKeyword then return .mk (← anyIdent) .none
  let name ← if ← peek (isKw "Self") then anyIdent else ident
  let direct := !inExpr && (← peek (isOp "<")) && !(← peek (isOp "<="))
  if direct || ((← peek (isOp "::")) && (← peek3 (isOp "<"))) then
    return .mk name (.angle (← angleArguments g))
  return .mk name .none

/-- The segments behind the first ones. Before the parentheses of a function trait the path is
over. -/
def moreSegments (g : Grammar) (inExpr : Bool) (first : List Segment) : Parser (List Segment) :=
  iterate (fun found => do
    if (← peek (isOp "::")) && !(← peek3 (isGroup .parenthesis)) then
      let _ ← sign "::"
      return .inl ((← segment g inExpr) :: found)
    return .inr found.reverse) first.reverse

/-- The segments of a path, and whether `::` comes before them. -/
def pathParts (g : Grammar) (inExpr : Bool) : Parser (Bool × List Segment) := do
  let colon ← sign? "::"
  let first ← segment g inExpr
  return (colon, ← moreSegments g inExpr [first])

/-- A path. -/
def path (g : Grammar) (inExpr : Bool) : Parser Path := do
  let ((colon, segments), span) ← spanned (pathParts g inExpr)
  return .mk span colon segments

/-- What stands before `>` in a qualified path: a type, and a trait's path after `as`. -/
def qualification (g : Grammar) : Parser (Ty × Option Path) := do
  let _ ← sign "<"
  let ty ← g.ty true
  let ofTrait ← if (← keyword? "as").isSome then some <$> path g false else pure none
  let _ ← sign ">"
  return (ty, ofTrait)

/-- A path that may be qualified. -/
def qualifiedPath (g : Grammar) (inExpr : Bool) : Parser (Option QSelf × Path) := do
  if !(← peek (isOp "<")) then return (none, ← path g inExpr)
  let ((q, path), span) ← spanned do
    let (ty, ofTrait) ← qualification g
    let _ ← sign "::"
    let rest ← separatedWith "::" (pure false) (return !(← peek (isOp "::"))) (segment g inExpr)
    match ofTrait with
    | some (.mk _ colon segments) =>
      return (QSelf.mk ty segments.length, (colon, segments ++ rest.values))
    | none => return (QSelf.mk ty 0, (true, rest.values))
  return (some q, .mk span path.1 path.2)

/-- The same segments with other arguments in the last one. -/
def withLastArguments (arguments : Arguments) : List Segment → List Segment
  | [] => []
  | [.mk name _] => [.mk name arguments]
  | s :: rest => s :: withLastArguments arguments rest

/-- Whether the last segment has no arguments. -/
def lastIsBare (segments : List Segment) : Bool := (segments.getLast?.map Segment.isBare).getD false

/-- A trait as a bound, without its parentheses; nothing if it is marked `const`, a form that
is kept unread. -/
def traitBound (g : Grammar) (constant : Bool) : Parser (Option Bound) := do
  let early ← binder? g
  let mut marked := false
  if ← peek (isGroup .bracket) then
    let ((), span) ← spanned (inside .bracket (do let _ ← keyword "const"))
    if !constant then failAt span (.restriction .conditionalConstNotAllowed)
    marked := true
  else if ← peek (isKw "const") then
    let span ← keyword "const"
    if !constant then failAt span (.restriction .constBoundNotAllowed)
    marked := true
  let mark ← here
  let relaxed ← sign? "?"
  let binding ← if early.isNone && relaxed then binder? g else pure early
  let (.mk _ colon segments, span) ← spanned (path g false)
  let (segments, span) ←
    if lastIsBare segments && (← startsParenthesized) then do
      let arguments ← parenthesizedArguments g
      pure (withLastArguments arguments segments, span.join (← get).last)
    else pure (segments, span)
  if binding.isSome && relaxed then failAt mark (.restriction .relaxedBinder)
  if marked then return none
  return some (.trait false relaxed binding (.mk span colon segments))

/-- The entries of a `use<..>` bound, with the place of the whole. -/
def capture : Parser (Bound × Span) := do
  let ((params : Separated Captured), span) ← spanned do
    let _ ← keyword "use"
    let _ ← sign "<"
    let params ← separatedWith "," (peek (isOp ">")) (peek (isOp ">")) do
      if ← peek isLifetime then return Captured.lifetime (← lifetime)
      else if ← peek isName then return .param (← ident)
      else if ← peek (isKw "Self") then return .param (← anyIdent)
      else expected [.kind "lifetime", .kind "identifier", .token "Self"]
    let _ ← sign ">"
    return params
  return (.capture params.values params.trailing, span)

/-- A bound. -/
def oneBound (g : Grammar) (allowCapture constant : Bool) : Parser Bound := do
  if ← peek isLifetime then return .lifetime (← lifetime)
  if ← peek (isKw "use") then
    let (found, span) ← capture
    if allowCapture then return found
    failAt span (.restriction .captureNotAllowed)
  let (found, tokens) ← verbatim do
    if ← peek (isGroup .parenthesis) then
      let found ← inside .parenthesis (traitBound g constant)
      match found with
      | some (.trait _ relaxed binding path) => return some (.trait true relaxed binding path)
      | other => return other
    else traitBound g constant
  return found.getD (.verbatim tokens)

/-- Bounds with plus signs between them, if `plus`; at least one. -/
def bounds (g : Grammar) (plus allowCapture constant : Bool) : Parser (Separated Bound) :=
  iterate (σ := List Bound) (fun found => do
    let b ← g.bound allowCapture constant
    if !(plus && (← peek (isOp "+"))) then return .inr ⟨(b :: found).reverse, false⟩
    let _ ← sign "+"
    if !(← peekAny [isBoundStart, isGroup .bracket, isKw "const"]) then
      return .inr ⟨(b :: found).reverse, true⟩
    return .inl (b :: found)) []

end DeclSynth.Grammar
