import DeclSynth.Unicode.Print

/-!
# Quoted text

Two ways to put a text between double quotes. `display` is the form messages use for
a text they cite; `literal` is a string literal of the token language, which differs
in one place only: a null before an octal digit is written in full, so that the two
cannot be read as one escape.
-/

namespace DeclSynth.Text

/-- The digits of a number in lower-case hexadecimal. -/
def hexDigits (n : Nat) : List Char := Nat.toDigits 16 n

/-- A character as it is written inside double quotes: the usual short escapes, and
`\u` with the code point for what does not print. -/
def escape (c : Char) : List Char :=
  if c = '\x00' then ['\\', '0']
  else if c = '\t' then ['\\', 't']
  else if c = '\r' then ['\\', 'r']
  else if c = '\n' then ['\\', 'n']
  else if c = '\\' then ['\\', '\\']
  else if c = '"' then ['\\', '"']
  else if Unicode.isPrintable c then [c]
  else ['\\', 'u', '\x7b'] ++ hexDigits c.toNat ++ ['\x7d']

/-- A text between double quotes, as messages cite it. -/
def display (text : String) : String :=
  String.ofList ('"' :: text.toList.flatMap escape ++ ['"'])

/-- Whether a character is a digit of base eight. -/
def isOctalDigit (c : Char) : Bool := '0' ≤ c && c ≤ '7'

/-- The escaped characters of a string literal. -/
def literalChars : List Char → List Char
  | [] => []
  | c :: rest =>
    if c = '\x00' && (rest.head?.map isOctalDigit).getD false then
      ['\\', 'x', '0', '0'] ++ literalChars rest
    else escape c ++ literalChars rest

/-- The string literal whose content is the text. -/
def literal (text : String) : String :=
  String.ofList ('"' :: literalChars text.toList ++ ['"'])

end DeclSynth.Text
