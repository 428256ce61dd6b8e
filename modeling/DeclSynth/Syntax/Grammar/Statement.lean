import DeclSynth.Syntax.Grammar.Expr

/-!
# The grammar of statements

A statement is a binding, an item, a macro call with its own braces, or an expression.
What it is follows from the tokens behind its attributes. Only a form that ends in a
block, or the last statement, may lack its semicolon.
-/

namespace DeclSynth.Grammar

open DeclSynth.Parser

/-- The kinds of statement. -/
inductive StatementKind where
  | binding
  | item
  | bracedCall
  | expression

/-- What a macro call at the beginning of a statement makes of it: one that names something is an
item, one with braces stands alone unless something is attached to it. -/
def callKind : Parser (Option StatementKind) := do
  let _ ← plainPath
  if !(← peek (isOp "!")) then return none
  if (← peek2 isName) || (← peek2 (isKw "try")) then return some .item
  let attached := ((← peek3 (isOp ".")) && !(← peek3 (isOp ".."))) || (← peek3 (isOp "?"))
  if (← peek2 (isGroup .brace)) && !attached then return some .bracedCall
  return none

/-- Whether one of some words follows the next token. -/
def followedBy (words : List String) : Parser Bool := peek2 fun ts => words.any (isKw · ts)

/-- Whether a constant comes next, and not a closure or a block that is one. -/
def isConstItem : Parser Bool := do
  if !(← peek (isKw "const")) then return false
  if (← peek2 (isGroup .brace)) || (← followedBy ["static", "move"]) || (← peek2 (isOp "|")) then
    return false
  return !(← followedBy ["async"]) || (← peek3 isFnStart)

/-- Whether a static variable comes next, and not a closure. -/
def isStaticItem : Parser Bool := do
  if !(← peek (isKw "static")) then return false
  return (← followedBy ["mut"]) || (← peek2 isName)

/-- Whether an item comes next. -/
def isItemStart : Parser Bool := do
  let always := ["pub", "extern", "use", "fn", "mod", "type", "struct", "enum", "trait", "impl",
    "macro"]
  if ← peekAny (always.map isKw) then return true
  if ← isConstItem then return true
  if ← isStaticItem then return true
  return ((← peek (isKw "crate")) && !(← peek2 (isOp "::"))) ||
    ((← peek (isKw "unsafe")) && !(← peek2 (isGroup .brace))) ||
    ((← peek (isKw "async")) && (← followedBy ["unsafe", "extern", "fn"])) ||
    ((← peek (isKw "union")) && (← peek2 isName)) ||
    ((← peek (isKw "auto")) && (← followedBy ["trait"])) ||
    ((← peek (isKw "default")) && (← followedBy ["unsafe", "impl"]))

/-- What kind of statement comes next. -/
def statementKind (g : Grammar) : Parser StatementKind := do
  let _ ← attributes g
  if let some (some kind) ← lookahead callKind then return kind
  if ← peek (isKw "let") then return .binding
  if ← isItemStart then return .item
  return .expression

/-- A binding of a pattern, with a block for the values it does not match. -/
def bindingStatement (g : Grammar) : Parser Unit := do
  let _ ← attributes g
  let _ ← keyword "let"
  let _ ← g.pattern
  if ← sign? ":" then
    let _ ← g.ty true
  if ← sign? "=" then
    let value ← g.expr true
    let braced := match value.tokens.getLast? with
      | some (.group .brace _ _) => true
      | _ => false
    if !braced && (← keyword? "else").isSome then block g
  let _ ← sign ";"

/-- A statement; tells whether another may follow it. -/
def statement (g : Grammar) : Parser Bool := do
  match ← ahead (statementKind g) with
  | .bracedCall =>
    let _ ← attributes g
    let _ ← plainPath
    let _ ← macroCall
    let _ ← sign? ";"
    return true
  | .binding =>
    bindingStatement g
    return true
  | .item =>
    let _ ← rendered Item.tokens g.item
    return true
  | .expression =>
    let outline ← g.early
    if ← sign? ";" then return true
    return match outline with
      | .block => true
      | .macroCall braced => braced
      | _ => false

/-- The statements up to the end of the level. -/
def statementsRule (g : Grammar) : Parser Unit :=
  iterate (fun () => do
    let _ ← whilePeek (isOp ";") (sign ";")
    if ← atEnd then return .inr ()
    let complete ← statement g
    if ← atEnd then return .inr ()
    if complete then return .inl ()
    failAt (← here) .unterminatedStatement) ()

end DeclSynth.Grammar
