import DeclSynth.Syntax.Reader
import DeclSynth.Syntax.Item

/-!
# The grammar, open

The kinds of tree refer to one another. `Grammar` holds a reader for each kind that the
others need; every rule of the grammar is a plain function of such a record, and
`Syntax.Parse` closes the circle. This file also holds what all rules share: attributes,
plain paths, macro calls and blocks.
-/

namespace DeclSynth

/-- How tightly an operator binds, the loosest first. -/
inductive Precedence where
  | jump
  | assign
  | range
  | or
  | and
  | letChain
  | compare
  | bitOr
  | bitXor
  | bitAnd
  | shift
  | sum
  | product
  | cast
deriving DecidableEq, Repr

/-- The place of a precedence in the order. -/
def Precedence.rank (p : Precedence) : Nat := p.ctorIdx

/-- What a pattern is, as far as it matters. -/
inductive PatternForm where
  /-- A plain name, perhaps mutable. -/
  | binding (mutable : Bool) (name : Ident)
  /-- A range that lacks a bound; the span is that of its dots. -/
  | openRange (dots : Span)
  /-- Any other form. -/
  | other

/-- Readers for the kinds of tree that the rules refer to. -/
structure Grammar where
  /-- A type; bounds may be added with plus signs if `plus`. -/
  ty : (plus : Bool) → Parser Ty
  /-- A bound; `use<..>` may stand there if `capture`, and `const` before a trait if `constant`. -/
  bound : (capture constant : Bool) → Parser Bound
  /-- An expression; a path may be followed by the braces of a struct if `braces`. -/
  expr : (braces : Bool) → Parser Expr
  /-- An operand with the operators before it. -/
  unary : (braces : Bool) → Parser Outline
  /-- The binary operators after an operand that bind at least as tightly as `base`. -/
  operators : (left : Outline) → (braces : Bool) → (base : Precedence) → Parser Outline
  /-- An expression at the beginning of a statement, or the body of a match arm. -/
  early : Parser Outline
  /-- A pattern without alternatives. -/
  pattern : Parser PatternForm
  /-- The statements up to the end of the level. -/
  statements : Parser Unit
  /-- An item with its attributes. -/
  item : Parser Item
  /-- A use tree, or nothing if a path in it starts at the root; it may if `root`. -/
  useTree : (root : Bool) → Parser (Option UseTree)

namespace Grammar

open DeclSynth.Parser

/-- Makes an expression of what a reading takes, writes and mentions. -/
def exprOf (p : Parser Outline) : Parser Expr := do
  let (((outline, mentions), tokens), span) ← spanned (recorded (mentioning p))
  mentions.forM mention
  return .mk span tokens mentions outline

/-- A literal. -/
def literalOutline : Parser Outline := do
  let (text, span) ← spanned literal
  return .literal text span

/-- Whether a word may come first in a plain path. -/
def isPathWord (ts : Tokens) : Bool :=
  isName ts || ["super", "self", "Self", "crate"].any (isKw · ts)

/-- A path of names alone: whether it starts with `::`, and its names. -/
def plainPath : Parser (Bool × List Ident) := do
  let colon ← sign? "::"
  let (names, trailing) ← iterate (σ := List Ident × Bool) (fun (names, trailing) => do
    if !(← peek isPathWord) then return .inr (names.reverse, trailing)
    let name ← anyIdent
    if ← sign? "::" then return .inl (name :: names, true)
    return .inr ((name :: names).reverse, false)) ([], false)
  if names.isEmpty then
    let _ ← ident
    return (colon, [])
  if trailing then expected [.kind "path segment after `::`"]
  return (colon, names)

/-- The path of an attribute, which may be the word `unsafe`. -/
def attributePath : Parser (Bool × List Ident) := do
  if ← peek (isKw "unsafe") then return (false, [← anyIdent]) else plainPath

/-- The value of an attribute: a literal that nothing follows, or an expression. -/
def attributeValue (g : Grammar) : Parser Expr := do
  let alone ← lookahead do
    let _ ← literal
    atEnd
  if alone = some true then exprOf literalOutline
  else if (← peek (isOp "#")) && (← peek2 (isGroup .bracket)) then
    fail (.restriction .attributeInAttribute)
  else g.expr true

/-- What stands inside the brackets of an attribute: its path and its form. -/
def attributeContent (g : Grammar) : Parser ((Bool × List Ident) × AttributeForm) := do
  let (path, start) ← spanned attributePath
  if ← peekAny [isGroup .parenthesis, isGroup .bracket, isGroup .brace] then
    let (_, body, span) ← anyGroup
    return (path, .list body span.closing)
  else if ← peek (isOp "=") then
    let _ ← sign "="
    let value ← attributeValue g
    return (path, .nameValue (start.join (← get).last) value)
  else return (path, .path)

/-- One attribute, `inner` if it has an exclamation mark. -/
def oneAttribute (g : Grammar) (inner : Bool) : Parser Attribute := do
  let (((((leadingColon, path), form), tokens)), span) ← spanned <| recorded do
    let _ ← sign "#"
    if inner then
      let _ ← sign "!"
    inside .bracket (attributeContent g)
  return { inner, leadingColon, path, form, tokens, span }

/-- The attributes before something. -/
def attributes (g : Grammar) : Parser (List Attribute) :=
  whilePeek (isOp "#") (oneAttribute g false)

/-- The attributes at the beginning of a braced body. -/
def attributesInside (g : Grammar) : Parser (List Attribute) :=
  iterate (fun found => do
    if (← peek (isOp "#")) && (← peek2 (isOp "!")) then
      return .inl ((← oneAttribute g true) :: found)
    return .inr found.reverse) []

/-- Statements between curly braces. -/
def block (g : Grammar) : Parser Unit := inside .brace g.statements

/-- A block that may begin with attributes of its own. -/
def attributedBlock (g : Grammar) : Parser Unit :=
  inside .brace do
    let _ ← attributesInside g
    g.statements

/-- The call of a macro behind its path: an exclamation mark and a group. -/
def macroCall : Parser Delimiter := do
  let _ ← sign "!"
  let (delimiter, _, _) ← anyGroup
  return delimiter

/-- Whether a macro's exclamation mark comes next. -/
def isCall (ts : Tokens) : Bool := isOp "!" ts && !isOp "!=" ts

/-- The parameters of a `for<..>`. -/
def binder (g : Grammar) : Parser Binder := do
  let _ ← keyword "for"
  let _ ← sign "<"
  let params ← separatedWith "," (peek (isOp ">")) (peek (isOp ">")) do
    let attributes ← attributes g
    return (⟨attributes, ← lifetime, [], false⟩ : LifetimeParam)
  let _ ← sign ">"
  return ⟨params.values, params.trailing⟩

/-- The parameters of a `for<..>`, if one comes next. -/
def binder? (g : Grammar) : Parser (Option Binder) := do
  if ← peek (isKw "for") then return some (← binder g) else return none

/-- How far a declaration can be seen. Parentheses behind `pub` belong to it only if they hold
one of the words `crate`, `self` and `super` alone, or start with `in`. -/
def visibility : Parser Visibility := do
  if !(← peek (isKw "pub")) then return .inherited
  let _ ← keyword "pub"
  if !(← peek (isGroup .parenthesis)) then return .everywhere
  let short ← attempt <| inside .parenthesis do
    if !(← peekAny [isKw "crate", isKw "self", isKw "super"]) then expected []
    let name ← anyIdent
    if !(← atEnd) then expected []
    return name
  match short with
  | some name => return .restricted false false [name]
  | none =>
    if !(← ahead (inside .parenthesis (do
        let found ← peek (isKw "in")
        let _ ← takeRest
        return found)))
    then return .everywhere
    let (colon, names) ← inside .parenthesis do
      let _ ← keyword "in"
      plainPath
    return .restricted true colon names

end Grammar

end DeclSynth
