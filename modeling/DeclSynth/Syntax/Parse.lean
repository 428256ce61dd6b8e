import DeclSynth.Syntax.Grammar.Item

/-!
# Parsing

`Grammar.ofDepth` ties the rules together: a grammar that may still descend `n` levels
refers to one that may descend `n - 1`. Rules descend a bounded number of levels for
each token they take, so `Grammar.forTokens` is deep enough for its tokens, and a
reading never stops for lack of depth. The functions below read complete trees.
-/

namespace DeclSynth

namespace Grammar

/-- The rules, descending at most so many levels. -/
def ofDepth : Nat → Grammar
  | 0 =>
    { ty := fun _ => Parser.expected []
      bound := fun _ _ => Parser.expected []
      expr := fun _ => Parser.expected []
      unary := fun _ => Parser.expected []
      operators := fun _ _ _ => Parser.expected []
      early := Parser.expected []
      pattern := Parser.expected []
      statements := Parser.expected []
      item := Parser.expected []
      useTree := fun _ => Parser.expected [] }
  | depth + 1 =>
    { ty := fun plus r => typeRule (ofDepth depth) plus r
      bound := fun capture constant r => boundRule (ofDepth depth) capture constant r
      expr := fun braces r => exprRule (ofDepth depth) braces r
      unary := fun braces r => unaryRule (ofDepth depth) braces r
      operators := fun left braces base r => operatorsRule (ofDepth depth) left braces base r
      early := fun r => earlyRule (ofDepth depth) r
      pattern := fun r => patternRule (ofDepth depth) r
      statements := fun r => statementsRule (ofDepth depth) r
      item := fun r => itemRule (ofDepth depth) r
      useTree := fun root r => useTreeRule (ofDepth depth) root r }

/-- A grammar that descends deep enough for these tokens. -/
def forTokens (ts : Tokens) : Grammar := ofDepth (8 * Token.sizeAll ts + 8)

end Grammar

open DeclSynth.Parser

/-- Does a complete reading of tokens with the grammar that they need. -/
def parseWith {α : Type} (rule : Grammar → Parser α) (scope : Span) (ts : Tokens) :
    Except SyntaxError α :=
  Parser.run (rule (Grammar.forTokens ts)) scope ts

/-- The item that the tokens are. -/
def Item.parse (ts : Tokens) : Except SyntaxError Item := parseWith Grammar.itemRule .callSite ts

/-- The struct that the tokens are. -/
def StructItem.parse (ts : Tokens) : Except SyntaxError StructItem :=
  parseWith (fun g => do Grammar.structItem g (← Grammar.attributes g)) .callSite ts

/-- The module that the tokens are. -/
def Item.parseModule (ts : Tokens) : Except SyntaxError Item :=
  parseWith (fun g => do Grammar.modItem g (← Grammar.attributes g)) .callSite ts

/-- The items of a file, and the attributes at its beginning. -/
def Item.parseFile (ts : Tokens) : Except SyntaxError (List Attribute × List Item) :=
  parseWith (fun g => do
    let attributes ← Grammar.attributesInside g
    return (attributes, ← untilEnd g.item)) .callSite ts

/-- The expression that the tokens are. -/
def Expr.parse (ts : Tokens) : Except SyntaxError Expr :=
  parseWith (fun g => g.expr true) .callSite ts

/-- The type that the tokens are. -/
def Ty.parse (ts : Tokens) : Except SyntaxError Ty := parseWith (fun g => g.ty true) .callSite ts

/-- The path, as types write it, that the tokens are. -/
def Path.parse (ts : Tokens) : Except SyntaxError Path :=
  parseWith (fun g => Grammar.path g false) .callSite ts

/-- The name that the tokens are. -/
def Ident.parse (ts : Tokens) : Except SyntaxError Ident := parseWith (fun _ => ident) .callSite ts

/-- The outer attributes that the tokens are. -/
def Attribute.parse (ts : Tokens) : Except SyntaxError (List Attribute) :=
  parseWith Grammar.attributes .callSite ts

end DeclSynth
