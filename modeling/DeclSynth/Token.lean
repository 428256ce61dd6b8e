import DeclSynth.Source

/-!
# Token trees

A source text is read into token trees: words, single punctuation characters, literals
kept as they were written, and groups between matching delimiters. A punctuation
character is joint when it belongs together with the one after it; `Tokens.render`
writes tokens with one blank between them except after a joint character.
-/

namespace DeclSynth

/-- The three pairs of delimiters. -/
inductive Delimiter where
  | parenthesis
  | bracket
  | brace
deriving DecidableEq, Repr, Inhabited

namespace Delimiter

/-- The opening character. -/
def opening : Delimiter → Char
  | parenthesis => '('
  | bracket => '['
  | brace => '\x7b'

/-- The closing character. -/
def closing : Delimiter → Char
  | parenthesis => ')'
  | bracket => ']'
  | brace => '\x7d'

end Delimiter

/-- One token, or a group of them. -/
inductive Token where
  /-- An identifier or a keyword, with its `r#` if it is raw. -/
  | word (text : String) (span : Span)
  /-- One punctuation character; `joint` if the next token belongs to it. -/
  | punct (char : Char) (joint : Bool) (span : Span)
  /-- A literal, as it was written. -/
  | literal (text : String) (span : Span)
  /-- The tokens between two delimiters; the span takes both in. -/
  | group (delimiter : Delimiter) (body : List Token) (span : Span)
deriving Repr, Inhabited

/-- A sequence of token trees. -/
abbrev Tokens := List Token

namespace Token

/-- Where the token stands. -/
def span : Token → Span
  | word _ span => span
  | punct _ _ span => span
  | literal _ span => span
  | group _ _ span => span

/-- Where an error about the token points: at a group's opening delimiter, else at all of it. -/
def errorSpan : Token → Span
  | group _ _ span => span.opening
  | t => t.span

/-- Whether the next token is written without a blank before it. -/
def isJoint : Token → Bool
  | punct _ joint _ => joint
  | _ => false

mutual

/-- The text of one token. A brace group has blanks inside its delimiters. -/
def render : Token → String
  | word text _ => text
  | punct char _ _ => char.toString
  | literal text _ => text
  | group .brace body _ =>
    if body.isEmpty then "\x7b \x7d" else "\x7b " ++ renderAll body ++ " \x7d"
  | group delimiter body _ =>
    delimiter.opening.toString ++ renderAll body ++ delimiter.closing.toString

/-- The text of a sequence of tokens: one blank between two of them, none after a joint one. -/
def renderAll : List Token → String
  | [] => ""
  | t :: rest =>
    render t ++ (if rest.isEmpty || t.isJoint then "" else " ") ++ renderAll rest

end

mutual

/-- The number of tokens in a token tree, a group counting one more than its body. -/
def size : Token → Nat
  | group _ body _ => sizeAll body + 1
  | _ => 1

/-- The number of tokens in a sequence of trees. -/
def sizeAll : List Token → Nat
  | [] => 0
  | t :: rest => size t + sizeAll rest

end

end Token

/-- The text of a sequence of tokens. -/
def Tokens.render (ts : Tokens) : String := Token.renderAll ts

/-- The place of a sequence of tokens: from its first to its last one. -/
def Tokens.span (ts : Tokens) : Span :=
  match ts.head?, ts.getLast? with
  | some first, some last => first.span.join last.span
  | _, _ => .callSite

end DeclSynth
