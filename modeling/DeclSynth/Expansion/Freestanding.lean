import DeclSynth.Argument
import DeclSynth.Expansion.InContext

/-!
# Expanders that stand alone

`stringify` pairs an expression with its text. `warning` reports a text and yields
nothing. Both want their input: without tokens they fail at the call site.
-/

namespace DeclSynth.Freestanding

/-- The input as a tree; `what` names it where there is none. -/
def required {α : Type} (parse : Tokens → Except SyntaxError α) (what : String) (input : Tokens) :
    Outcome α :=
  if input.isEmpty then .fail (.missingArgument what) .callSite else .ofSyntax (parse input)

/-- The string literal that the tokens are: its text and its place. -/
def literal (ts : Tokens) : Except SyntaxError (String × Span) :=
  parseWith (fun _ => Parser.stringLiteral) .callSite ts

/-- An expression and its text, as a pair. -/
def stringify (input : Tokens) : Outcome Tokens := do
  let value ← required Expr.parse "an expression to stringify" input
  return paren (value.tokens ++ op "," ++ str value.tokens.render)

/-- Reports the content of a string literal as a warning. -/
def warning (input : Tokens) : InContext Tokens := do
  let (text, span) ← required literal "a string literal message" input
  .warn span (Literal.content text)
  return []

end DeclSynth.Freestanding
