import DeclSynth.Syntax.Grammar.Pattern

/-!
# The grammar of expressions

An expression writes itself while it is read and yields its outline. It is an operand
(`unaryRule`: prefix operators, an atom, and what is attached to the atom) with the
binary operators after it (`operatorsRule`, by precedence). Before a block a path may
not be followed by the braces of a struct; `braces` tells whether it may.
-/

namespace DeclSynth.Grammar

open DeclSynth.Parser

/-! ## Operators -/

/-- The binary operators, longer ones before those they start with. -/
def binaryOperators : List (String × Precedence) :=
  [("+=", .assign), ("-=", .assign), ("*=", .assign), ("/=", .assign), ("%=", .assign),
    ("^=", .assign), ("&=", .assign), ("|=", .assign), ("<<=", .assign), (">>=", .assign),
    ("&&", .and), ("||", .or), ("<<", .shift), (">>", .shift), ("==", .compare),
    ("<=", .compare), ("!=", .compare), (">=", .compare), ("+", .sum), ("-", .sum),
    ("*", .product), ("/", .product), ("%", .product), ("^", .bitXor), ("&", .bitAnd),
    ("|", .bitOr), ("<", .compare), (">", .compare)]

/-- The binary operator that comes first. -/
def binaryOperator? (ts : Tokens) : Option (String × Precedence) :=
  binaryOperators.find? fun (text, _) => isOp text ts

/-- Whether an assignment comes first. -/
def isAssignment (ts : Tokens) : Bool := isOp "=" ts && !isOp "=>" ts

/-- The precedence of the operator that comes first; the loosest one for none. -/
def nextPrecedence (ts : Tokens) : Precedence :=
  match binaryOperator? ts with
  | some (_, precedence) => precedence
  | none =>
    if isAssignment ts then .assign
    else if isOp ".." ts then .range
    else if isKw "as" ts then .cast
    else .jump

/-- The right operand of an operator: an operand, with the operators after it that bind more
tightly. Assignments group to the right. -/
def rightOperand (g : Grammar) (braces : Bool) (precedence : Precedence) : Parser Outline := do
  let first ← g.unary braces
  iterate (fun (right : Outline) => do
    let next := nextPrecedence (← get).rest
    if next.rank > precedence.rank || (next == precedence && precedence == .assign) then
      let before := (← get).rest.length
      let right ← g.operators right braces next
      if (← get).rest.length = before then return .inr right
      return .inl right
    else return .inr right) first

/-- Whether nothing that could be the end of a half-open range comes next. -/
def isRangeEndMissing (braces : Bool) (ts : Tokens) : Bool :=
  ts.isEmpty || (isOp "." ts && !isOp ".." ts) || (!braces && isGroup .brace ts) ||
    isKw "as" ts ||
    [",", ";", "?", "=>", "=", "+", "/", "%", "^", ">", "<=", "!=", "-=", "*=", "&=", "|=",
      "<<="].any (isOp · ts)

/-- The dots of a range and its end. -/
def rangeRule (g : Grammar) (braces : Bool) : Parser Outline := do
  let (limits, _) ← rangeSign false
  if limits = .halfOpen && (← peek (isRangeEndMissing braces)) then return .range
  let _ ← rightOperand g braces .range
  return .range

/-- Stops if something is attached to the type of a cast. -/
def checkCast : Parser Unit := do
  let follow (form : String) : Parser Unit := fail (.restriction (.afterCast form))
  if (← peek (isOp ".")) && !(← peek (isOp "..")) then
    if ← peek2 (isKw "await") then follow "`.await`"
    else if (← peek2 isName) && ((← peek3 (isGroup .parenthesis)) || (← peek3 (isOp "::"))) then
      follow "a method call"
    else follow "a field access"
  else if ← peek (isOp "?") then follow "`?`"
  else if ← peek (isGroup .bracket) then follow "indexing"
  else if ← peek (isGroup .parenthesis) then follow "a function call"

/-- The binary operators after an operand that bind at least as tightly as `base`. A range takes
none. -/
def operatorsRule (g : Grammar) (left : Outline) (braces : Bool) (base : Precedence) :
    Parser Outline :=
  iterate (fun (left : Outline) => do
    if let .range := left then return .inr left
    let ts := (← get).rest
    match binaryOperator? ts with
    | some (text, precedence) =>
      if precedence.rank < base.rank then return .inr left
      if precedence == .compare then
        if let .comparison := left then fail (.restriction .chainedComparison)
      let _ ← sign text
      let _ ← rightOperand g braces precedence
      return .inl (if precedence == .compare then .comparison else .other)
    | none =>
      if base.rank ≤ Precedence.assign.rank && isAssignment ts then
        let _ ← sign "="
        let _ ← rightOperand g braces .assign
        return .inl .other
      else if base.rank ≤ Precedence.range.rank && isOp ".." ts then
        return .inl (← rangeRule g braces)
      else if base.rank ≤ Precedence.cast.rank && isKw "as" ts then
        let _ ← keyword "as"
        let _ ← g.ty false
        checkCast
        return .inl .other
      else return .inr left) left

/-- An expression, as an outline. -/
def exprOutline (g : Grammar) (braces : Bool) : Parser Outline := do
  g.operators (← g.unary braces) braces .jump

/-- An expression. -/
def exprRule (g : Grammar) (braces : Bool) : Parser Expr := exprOf (exprOutline g braces)

/-! ## Atoms -/

/-- Whether an expression may start here. -/
def startsExpr (ts : Tokens) : Bool :=
  (isWord ts && !isKw "as" ts) || isGroup .parenthesis ts || isGroup .bracket ts ||
    isGroup .brace ts || isLiteral ts || (isOp "!" ts && !isOp "!=" ts) ||
    (isOp "-" ts && !isOp "-=" ts && !isOp "->" ts) || (isOp "*" ts && !isOp "*=" ts) ||
    (isOp "|" ts && !isOp "|=" ts) || (isOp "&" ts && !isOp "&=" ts) || isOp ".." ts ||
    (isOp "<" ts && !isOp "<=" ts && !isOp "<<=" ts) || isOp "::" ts || isLifetime ts || isOp "#" ts

/-- An expression, if one may start here. -/
def optionalExpr (g : Grammar) : Parser Unit := do
  if ← peek startsExpr then
    let _ ← g.expr true

/-- A field of a struct expression: a member and its value, or a name that is both. -/
def fieldValue (g : Grammar) : Parser Unit := do
  let _ ← attributes g
  let named ← member
  if named.isNone || (← peek (isOp ":")) then
    let _ ← sign ":"
    let _ ← g.expr true

/-- The braces of a struct expression. -/
def structBody (g : Grammar) : Parser Unit :=
  inside .brace <| iterate (fun () => do
    if ← atEnd then return .inr ()
    if ← sign? ".." then
      if !(← atEnd) then
        let _ ← g.expr true
      return .inr ()
    fieldValue g
    if ← atEnd then return .inr ()
    let _ ← sign ","
    return .inl ()) ()

/-- A path, a macro call or a struct. -/
def pathExpr (g : Grammar) (braces : Bool) : Parser Outline := do
  let (q, path) ← valuePath g
  if q.isNone && path.isPlain && (← peek isCall) then
    return .macroCall ((← macroCall) = .brace)
  if braces && (← peek (isGroup .brace)) then
    structBody g
    return .other
  return .path q.isSome path

/-- A tuple, or an expression in parentheses. -/
def parenthesizedExpr (g : Grammar) : Parser Outline :=
  inside .parenthesis do
    if ← atEnd then return .other
    let first ← g.expr true
    if ← atEnd then return .paren first
    let _ ← sign ","
    let _ ← commaSeparated (g.expr true)
    return .other

/-- An array, with its elements or with one that is repeated. -/
def bracketedExpr (g : Grammar) : Parser Outline :=
  inside .bracket do
    if ← atEnd then return .array []
    let first ← g.expr true
    if ← atEnd then return .array [first]
    if ← sign? "," then
      let more ← commaSeparated (g.expr true)
      return .array (first :: more.values)
    if ← sign? ";" then
      let _ ← g.expr true
      return .other
    expected [.token ",", .token ";"]

/-- Whether the parameters of a binder come behind `for`. -/
def isClosureBinder : Parser Bool := do
  return (← peek (isKw "for")) && (← peek2 (isOp "<")) &&
    ((← peek3 isLifetime) || (← peek3 (isOp ">")))

/-- A parameter of a closure. -/
def closureParameter (g : Grammar) : Parser Unit := do
  let _ ← attributes g
  let _ ← g.pattern
  if ← sign? ":" then
    let _ ← g.ty true

/-- A closure. -/
def closure (g : Grammar) (braces : Bool) : Parser Outline := do
  let _ ← binder? g
  let _ ← keyword? "const"
  let _ ← keyword? "static"
  let _ ← keyword? "async"
  let _ ← keyword? "move"
  let _ ← sign "|"
  let _ ← separatedWith "," (peek (isOp "|")) (peek (isOp "|")) (closureParameter g)
  let _ ← sign "|"
  if ← sign? "->" then
    let _ ← g.ty true
    block g
  else
    let _ ← exprOutline g braces
  return .other

/-- A jump out of a labelled or unlabelled block, with a value if one follows. -/
def breakExpr (g : Grammar) (braces : Bool) : Parser Outline := do
  let _ ← keyword "break"
  if (← peek isLifetime) && (← peek2 (isOp ":")) then
    let (_, span) ← spanned (g.expr true)
    failAt span (.restriction .labelledBreakValue)
  let _ ← lifetime?
  if (← peek startsExpr) && (braces || !(← peek (isGroup .brace))) then
    let _ ← exprOutline g braces
  return .other

/-- A pattern that is matched against an expression. -/
def letExpr (g : Grammar) (braces : Bool) : Parser Outline := do
  let _ ← keyword "let"
  let _ ← alternatives g
  let _ ← sign "="
  let left ← g.unary braces
  let _ ← g.operators left braces .compare
  return .other

/-- A condition with its branches. -/
def ifExpr (g : Grammar) : Parser Outline :=
  iterate (fun () => do
    let _ ← keyword "if"
    let _ ← g.expr false
    block g
    if (← keyword? "else").isNone then return .inr .block
    if ← peek (isKw "if") then return .inl ()
    if ← peek (isGroup .brace) then
      block g
      return .inr .block
    expected [.token "if", .kind "curly braces"]) ()

/-- A loop with a condition. -/
def whileExpr (g : Grammar) : Parser Outline := do
  let _ ← keyword "while"
  let _ ← g.expr false
  attributedBlock g
  return .block

/-- A loop over the values of an expression. -/
def forExpr (g : Grammar) : Parser Outline := do
  let _ ← keyword "for"
  let _ ← alternatives g
  let _ ← keyword "in"
  let _ ← g.expr false
  attributedBlock g
  return .block

/-- A block behind words that have been read. -/
def blockForm (g : Grammar) : Parser Outline := do
  attributedBlock g
  return .block

/-- A branch of a match. One whose body ends in a block needs no comma behind it. -/
def matchArm (g : Grammar) : Parser Unit := do
  let _ ← attributes g
  let _ ← alternatives g
  if (← keyword? "if").isSome then
    let _ ← g.expr true
  let _ ← sign "=>"
  let complete := match ← g.early with
    | .block => true
    | _ => false
  if complete || (← atEnd) then
    let _ ← sign? ","
  else
    let _ ← sign ","

/-- A match over the forms of a value. -/
def matchExpr (g : Grammar) : Parser Outline := do
  let _ ← keyword "match"
  let _ ← g.expr false
  inside .brace do
    let _ ← attributesInside g
    let _ ← untilEnd (matchArm g)
  return .block

/-- A block or a loop behind its label. -/
def labelled (g : Grammar) : Parser Outline := do
  let _ ← lifetime
  let _ ← sign ":"
  if ← peek (isKw "while") then whileExpr g
  else if ← peek (isKw "for") then forExpr g
  else if (← keyword? "loop").isSome || (← peek (isGroup .brace)) then blockForm g
  else expected [.kind "loop or block expression"]

/-- A form that ends in a block, if one comes next. -/
def blockLike? (g : Grammar) : Parser (Option Outline) := do
  if ← peek (isKw "if") then ifExpr g
  else if ← peek (isKw "while") then whileExpr g
  else if (← peek (isKw "for")) && !(← isClosureBinder) then forExpr g
  else if (← keyword? "loop").isSome then blockForm g
  else if ← peek (isKw "match") then matchExpr g
  else if (← peek (isKw "try")) && (← peek2 (isGroup .brace)) then do
    let _ ← keyword "try"
    block g
    return Outline.block
  else if (← keyword? "unsafe").isSome then blockForm g
  else if (← peek (isKw "const")) && (← peek2 (isGroup .brace)) then do
    let _ ← keyword "const"
    blockForm g
  else if ← peek (isGroup .brace) then blockForm g
  else if ← peek isLifetime then labelled g
  else return none

/-- The digits of a number behind a dot: the numbers of nested members, which a float literal
runs together. Tells whether a dot is left at its end. -/
def nestedMembers (text : String) (span : Span) : Parser Bool := do
  let parts := text.splitOn "."
  let dotted := parts.getLast? == some ""
  let names := if dotted then parts.dropLast else parts
  let values ← names.mapM fun part => do
    match Literal.integer? part.toList with
    | none => failAt span (.expected [.kind "integer literal"])
    | some (value, suffix) =>
      if !suffix.isEmpty then failAt span (.restriction .unsuffixedInteger)
      if value ≥ Nat.pow 2 32 then failAt span (.restriction .indexTooLarge)
      return [Token.literal (toString value) span]
  write (separated (op ".") dotted values)
  return dotted

/-- What stands behind a dot: a word for waiting, a member, or a method with its arguments. -/
def memberAccess (g : Grammar) : Parser Unit := do
  match (← get).rest with
  | .literal t span :: rest =>
    if Literal.kind t = .float then
      advance rest span
      if !(← nestedMembers t span) then return
  | .punct '-' _ minus :: .literal t span :: _ =>
    if Literal.kind t = .float then failAt (minus.join span) (.restriction .signedIndex)
  | _ => pure ()
  if (← keyword? "await").isSome then return
  match ← member with
  | none => return
  | some name =>
    let turbofish ← peek (isOp "::")
    if turbofish then
      let (arguments, _) ← mentioning (angleArguments g)
      mention (.type (.path name.span none (.mk name.span false [.mk name (.angle arguments)])))
    if turbofish || (← peek (isGroup .parenthesis)) then
      let _ ← inside .parenthesis (commaSeparated (g.expr true))

/-- What is attached to an operand: arguments, members, indices and question marks. A range has
neither members nor question marks. -/
def attachments (g : Grammar) (operand : Outline) : Parser Outline :=
  iterate (fun (operand : Outline) => do
    let complete := match operand with
      | .range => false
      | _ => true
    if ← peek (isGroup .parenthesis) then
      let _ ← inside .parenthesis (commaSeparated (g.expr true))
      return .inl .other
    else if complete && (← peek (isOp ".")) && !(← peek (isOp "..")) then
      let _ ← sign "."
      memberAccess g
      return .inl .other
    else if ← peek (isGroup .bracket) then
      let _ ← inside .bracket (g.expr true)
      return .inl .other
    else if complete && (← sign? "?") then return .inl .other
    else return .inr operand) operand

/-- An expression as it stands at the beginning of a statement or as the body of a match arm: a form
that ends in a block is over with it, unless something is attached to it. -/
def earlyRule (g : Grammar) : Parser Outline := do
  let _ ← attributes g
  match ← blockLike? g with
  | none => g.operators (← g.unary true) true .jump
  | some outline =>
    if ((← peek (isOp ".")) && !(← peek (isOp ".."))) || (← peek (isOp "?")) then
      g.operators (← attachments g outline) true .jump
    else return outline

/-- Whether a closure comes next. -/
def isClosureStart : Parser Bool := do
  return (← peekAny [isOp "|", isKw "move", isKw "static"]) || (← isClosureBinder) ||
    ((← peek (isKw "const")) && !(← peek2 (isGroup .brace))) ||
    ((← peek (isKw "async")) && ((← peek2 (isOp "|")) || (← peek2 (isKw "move"))))

/-- Whether an asynchronous block comes next. -/
def isAsyncBlock : Parser Bool := do
  return (← peek (isKw "async")) && ((← peek2 (isGroup .brace)) ||
    ((← peek2 (isKw "move")) && (← peek3 (isGroup .brace))))

/-- Whether a path comes next. -/
def isPathStart : Parser Bool := do
  return (← peekAny [isName, isPathRoot, isOp "::", isOp "<"]) ||
    ((← peek (isKw "try")) && ((← peek2 (isOp "!")) || (← peek2 (isOp "::"))))

/-- An operand without what stands before it or is attached to it. -/
def atom (g : Grammar) (braces : Bool) : Parser Outline := do
  if ← peek isLiteral then return ← literalOutline
  if ← isAsyncBlock then
    let _ ← keyword "async"
    let _ ← keyword? "move"
    block g
    return .other
  if (← peek (isKw "try")) && (← peek2 (isGroup .brace)) then
    return (← blockLike? g).getD .other
  if ← isClosureStart then return ← closure g braces
  if (← peek (isKw "builtin")) && (← peek2 (isOp "#")) then
    let _ ← keyword "builtin"
    let _ ← sign "#"
    let _ ← ident
    let _ ← inside .parenthesis takeRest
    return .verbatim
  if ← isPathStart then return ← pathExpr g braces
  if ← peek (isGroup .parenthesis) then return ← parenthesizedExpr g
  if ← peek (isKw "break") then return ← breakExpr g braces
  if (← keyword? "continue").isSome then
    let _ ← lifetime?
    return .other
  if (← keyword? "return").isSome then
    optionalExpr g
    return .other
  if (← keyword? "become").isSome then
    let _ ← g.expr true
    return .verbatim
  if ← peek (isGroup .bracket) then return ← bracketedExpr g
  if ← peek (isKw "let") then return ← letExpr g braces
  if (← keyword? "yield").isSome then
    optionalExpr g
    return .other
  if ← peek (isOp "..") then return ← rangeRule g braces
  if (← keyword? "_").isSome then return .other
  match ← blockLike? g with
  | some outline => return outline
  | none => expected [.kind "an expression"]

/-- Takes a reference sign and the words behind it. -/
def borrow : Parser Unit := do
  let _ ← sign "&"
  let raw := (← peek (isKw "raw")) && ((← peek2 (isKw "mut")) || (← peek2 (isKw "const")))
  if raw then
    let _ ← keyword "raw"
  let mutable ← keyword? "mut"
  if raw && mutable.isNone then
    let _ ← keyword "const"

/-- An atom with what is attached to it, behind its attributes. -/
def operand (g : Grammar) (braces attributed : Bool) : Parser Outline := do
  let dots ← lookahead (rangeSign false)
  let outline ← attachments g (← atom g braces)
  match attributed, dots, outline with
  | true, some (_, span), .range => failAt span (.restriction .attributeOnRange)
  | _, _, _ => return outline

/-- Whether an expression is kept as it was written. -/
def isUnread : Outline → Bool
  | .verbatim => true
  | _ => false

/-- An operand with the operators before it. -/
def unaryRule (g : Grammar) (braces : Bool) : Parser Outline := do
  let (outline, _) ← verbatimIf isUnread <| unmentionedIf isUnread do
    let attributed := !(← attributes g).isEmpty
    if ← peek (isOp "&") then
      borrow
      let _ ← g.unary braces
      return .other
    else if ← peek (isOp "-") then
      let _ ← sign "-"
      return .negation (← exprOf (g.unary braces))
    else if ← peekAny [isOp "*", isOp "!"] then
      let _ ← if ← peek (isOp "*") then sign "*" else sign "!"
      let _ ← g.unary braces
      return .other
    else operand g braces attributed
  return outline

end DeclSynth.Grammar
