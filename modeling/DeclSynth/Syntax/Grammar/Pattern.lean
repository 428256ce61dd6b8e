import DeclSynth.Syntax.Grammar.Ty

/-!
# The grammar of patterns

A pattern writes itself while it is read. Only a plain name is told apart from other
patterns, and a range that lacks a bound, because a slice may not hold one.
-/

namespace DeclSynth.Grammar

open DeclSynth.Parser

/-- The signs between the bounds of a range; the closed one may be written with three dots. -/
inductive RangeSign where
  | halfOpen
  | closed
deriving DecidableEq

/-- Takes the dots of a range and gives their place. Three dots are allowed if `old`, and are
written like the sign they stand for. -/
def rangeSign (old : Bool) : Parser (RangeSign × Span) := do
  if ← peek (isOp "..=") then
    let ((), span) ← spanned (do let _ ← sign "..=")
    return (.closed, span)
  else if ← peek (isOp "...") then
    if !old then expected [.token "..", .token "..="]
    let ((), span) ← spanned (rendered (fun _ => op "..=") (do let _ ← sign "..."))
    return (.closed, span)
  else if ← peek (isOp "..") then
    let ((), span) ← spanned (do let _ ← sign "..")
    return (.halfOpen, span)
  else expected [.token "..", .token "..="]

/-- A path in an expression or a pattern. If it has arguments it is mentioned. -/
def valuePath (g : Grammar) : Parser (Option QSelf × Path) := do
  let (((q, path), tokens), _) ← mentioning (captured (qualifiedPath g true))
  write tokens
  if q.isSome || !path.isPlain then mention (.type (.path path.span q path))
  return (q, path)

/-- Whether what comes after a name makes the name the start of a longer pattern. -/
def goesOnAfterName (ts : Tokens) : Bool :=
  isOp "::" ts || isOp "!" ts || isGroup .brace ts || isGroup .parenthesis ts || isOp ".." ts

/-- What the bound of a range may start with. -/
def rangeBoundStarts : List Wanted :=
  [.kind "literal", .kind "identifier", .token "::", .token "<", .token "self", .token "Self",
    .token "super", .token "crate", .token "const"]

/-- Whether the bound of a range is missing here. -/
def isBoundMissing (ts : Tokens) : Bool :=
  ts.isEmpty || isOp "|" ts || isOp "=" ts || isColon ts || isOp "," ts || isOp ";" ts ||
    isKw "if" ts

/-- A bound of a range; tells whether there is one. -/
def rangeBound (g : Grammar) : Parser Bool := do
  if ← peek isBoundMissing then return false
  if ← peek isLiteral then
    let _ ← literal
  else if ← peekAny [isName, isOp "::", isOp "<", isPathRoot] then
    let _ ← valuePath g
  else if ← peek (isKw "const") then
    let _ ← keyword "const"
    attributedBlock g
  else expected rangeBoundStarts
  return true

/-- What follows the first bound of a range. -/
def rangeEnd (g : Grammar) : Parser PatternForm := do
  let (limits, dots) ← rangeSign true
  let bounded ← rangeBound g
  if limits = .closed && !bounded then expected [.kind "range upper bound"]
  return if bounded then .other else .openRange dots

/-- A range without a first bound, or the rest of a sequence. -/
def openStart (g : Grammar) : Parser PatternForm := do
  let (limits, dots) ← rangeSign false
  if ← rangeBound g then return .openRange dots
  if limits = .closed then expected [.kind "range upper bound"]
  return .other

/-- Alternatives between bars, the first of which may have one before it too. -/
def alternatives (g : Grammar) : Parser PatternForm := do
  let isBar (ts : Tokens) : Bool := isOp "|" ts && !isOp "||" ts && !isOp "|=" ts
  let leading ← sign? "|"
  let first ← g.pattern
  let more ← whilePeek isBar (do let _ ← sign "|"; let _ ← g.pattern)
  return if leading || !more.isEmpty then .other else first

/-- The member of a value: a name, which is given, or a number, which is written in plain digits. -/
def member : Parser (Option Ident) := do
  if ← peek isName then return some (← ident)
  match (← get).rest with
  | .literal t span :: rest =>
    match Literal.integer? t.toList with
    | some (value, suffix) =>
      if !suffix.isEmpty then fail (.restriction .unsuffixedInteger)
      if value ≥ Nat.pow 2 32 then fail (.restriction .indexTooLarge)
      write [.literal (toString value) span]
      advance rest span
      return none
    | none => expected [.kind "identifier", .kind "integer"]
  | .punct '-' _ minus :: .literal t span :: _ =>
    if Literal.kind t = .integer then failAt (minus.join span) (.restriction .signedIndex)
    else expected [.kind "identifier", .kind "integer"]
  | _ => expected [.kind "identifier", .kind "integer"]

/-- A field of a struct pattern. A boxed one is kept unread. -/
def fieldPattern (g : Grammar) : Parser Unit := do
  let boxed ← peek (isKw "box")
  let marked ← peekAny [isKw "box", isKw "ref", isKw "mut"]
  if marked then
    let words := do
      let _ ← keyword? "box"
      let _ ← keyword? "ref"
      let _ ← keyword? "mut"
      let _ ← ident
    if boxed then
      let _ ← verbatim words
    else words
  else
    let named ← member
    if named.isNone || (← peek (isOp ":")) then
      let _ ← sign ":"
      let _ ← alternatives g

/-- The braces of a struct pattern. -/
def structPattern (g : Grammar) : Parser Unit :=
  inside .brace <| iterate (fun () => do
    if ← atEnd then return .inr ()
    let _ ← attributes g
    if ← sign? ".." then return .inr ()
    fieldPattern g
    if ← atEnd then return .inr ()
    let _ ← sign ","
    return .inl ()) ()

/-- A pattern that starts with a path. -/
def pathPattern (g : Grammar) : Parser PatternForm := do
  let (q, path) ← valuePath g
  if q.isNone && path.isPlain && (← peek isCall) then
    let _ ← macroCall
    return .other
  if ← peek (isGroup .brace) then
    structPattern g
    return .other
  if ← peek (isGroup .parenthesis) then
    let _ ← inside .parenthesis (commaSeparated (alternatives g))
    return .other
  if ← peek (isOp "..") then rangeEnd g
  else return .other

/-- A name, perhaps with words before it, or with a pattern behind it. -/
def namePattern (g : Grammar) : Parser PatternForm := do
  let byRef ← keyword? "ref"
  let mutable ← keyword? "mut"
  let name ← if ← peek (isKw "self") then anyIdent else ident
  if ← sign? "@" then
    let _ ← g.pattern
    return .other
  return if byRef.isSome then .other else .binding mutable.isSome name

/-- A sequence of patterns between square brackets. A range that lacks a bound would be taken for
the rest of the sequence. -/
def slicePattern (g : Grammar) : Parser Unit := do
  let _ ← inside .bracket <| commaSeparated do
    match ← alternatives g with
    | .openRange dots => failAt dots (.restriction .openRangeInSlice)
    | _ => pure ()

/-- What a pattern may start with. -/
def patternStarts : List Wanted :=
  [.kind "identifier", .token "::", .token "<", .token "_", .kind "literal", .token "const",
    .token "ref", .token "mut", .token "&", .kind "parentheses", .kind "square brackets",
    .token "..", .token "const"]

/-- A pattern without alternatives. -/
def patternRule (g : Grammar) : Parser PatternForm := do
  let named ← peek isName
  let longer := named && (← peek2 goesOnAfterName)
  let fromSelf := (← peek (isKw "self")) && (← peek2 (isOp "::"))
  if longer || fromSelf ||
      (← peekAny [isOp "::", isOp "<", isKw "Self", isKw "super", isKw "crate"]) then
    pathPattern g
  else if ← peek (isKw "_") then do
    let _ ← keyword "_"
    return .other
  else if ← peek (isKw "box") then do
    let _ ← verbatim <| unmentionedIf (fun _ => true) do
      let _ ← keyword "box"
      let _ ← g.pattern
    return .other
  else if ← peekAny [isOp "-", isLiteral, isKw "const"] then do
    let _ ← rangeBound g
    if ← peek (isOp "..") then rangeEnd g
    else return .other
  else if named || (← peekAny [isKw "ref", isKw "mut", isKw "self"]) then namePattern g
  else if ← peek (isOp "&") then do
    let _ ← sign "&"
    let _ ← keyword? "mut"
    let _ ← g.pattern
    return .other
  else if ← peek (isGroup .parenthesis) then do
    let _ ← inside .parenthesis (commaSeparated (alternatives g))
    return .other
  else if ← peek (isGroup .bracket) then do
    slicePattern g
    return .other
  else if (← peek (isOp "..")) && !(← peek (isOp "...")) then openStart g
  else expected patternStarts

/-- The pattern of a parameter, with the tokens it prints. -/
def parameterPattern (g : Grammar) : Parser Pat := do
  let (form, tokens) ← recorded g.pattern
  return match form with
    | .binding mutable name => .binding mutable name
    | _ => .other tokens

end DeclSynth.Grammar
