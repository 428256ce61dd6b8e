import DeclSynth.Token
import DeclSynth.Token.Ident

/-!
# Writing tokens

The tokens of generated code. An operator of several characters is written with joints
between its characters and none after it, which is how the trees of the syntax print
them too.
-/

namespace DeclSynth

/-- A keyword or another fixed word. -/
def kw (text : String) : Tokens := [.word text .callSite]

/-- A name that the generated code keeps to itself. -/
def hygienic (text : String) : Tokens := [.word text .mixedSite]

/-- The characters of an operator, joined to one another, each at its own span. -/
def joined (span : Span) : List Char → Tokens
  | [] => []
  | [c] => [.punct c false span]
  | c :: rest => .punct c true span :: joined span rest

/-- An operator. -/
def op (text : String) : Tokens := joined .callSite text.toList

/-- A literal, as it is written. -/
def lit (text : String) : Tokens := [.literal text .callSite]

/-- The string literal with this content. -/
def str (content : String) : Tokens := lit (Text.literal content)

/-- Tokens between parentheses. -/
def paren (ts : Tokens) : Tokens := [.group .parenthesis ts .callSite]

/-- Tokens between square brackets. -/
def bracket (ts : Tokens) : Tokens := [.group .bracket ts .callSite]

/-- Tokens between curly braces. -/
def brace (ts : Tokens) : Tokens := [.group .brace ts .callSite]

/-- The token of an identifier. -/
def Ident.tokens (i : Ident) : Tokens := [.word i.text i.span]

/-- Fixed words joined by the path separator, after a leading one. -/
def absolute (names : List String) : Tokens := names.flatMap fun n => op "::" ++ kw n

/-- Pieces with a separator between them, and after the last one if `trailing`. -/
def separated (separator : Tokens) (trailing : Bool) : List Tokens → Tokens
  | [] => []
  | [last] => if trailing then last ++ separator else last
  | piece :: rest => piece ++ separator ++ separated separator trailing rest

/-- Pieces with a comma between them. -/
def commas (pieces : List Tokens) : Tokens := separated (op ",") false pieces

/-- Pieces with a comma after each. -/
def eachWithComma (pieces : List Tokens) : Tokens := separated (op ",") true pieces

end DeclSynth
