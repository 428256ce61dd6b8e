import DeclSynth.Unicode.Identifier

/-!
# Literals

What a literal token is, read off its text: its kind, the content of a string literal,
and the value of an integer literal. A numeric text is an integer if it reads as one,
else a float if it reads as one of those, and otherwise a literal of no kind.
-/

namespace DeclSynth

/-- The kinds of literal. -/
inductive LiteralKind where
  | text
  | byteText
  | cText
  | byte
  | char
  | integer
  | float
  /-- A number that no kind admits. -/
  | unknown
deriving DecidableEq, Repr

namespace Literal

/-- Whether what follows a number may be its suffix: nothing, or a word. -/
def isSuffix (cs : List Char) : Bool := cs.isEmpty || Unicode.isWord cs

/-- Whether a number stops being an integer at an exponent, given what follows the `e` and
whether a digit has been seen there: a sign or an exponent's digits make it a float, unless
something other than a word comes after them. -/
def hasExponent : Bool → List Char → Bool
  | seen, [] => seen
  | seen, c :: rest =>
    if c = '_' then hasExponent seen rest
    else if c = '-' || c = '+' then true
    else if c.isDigit then hasExponent true rest
    else seen && Unicode.isWord (c :: rest)

/-- The value of a digit in a base of up to sixteen; a letter counts only above base ten. -/
def digitIn? (base : Nat) (c : Char) : Option Nat :=
  if c.isDigit then some (c.toNat - '0'.toNat)
  else if base > 10 then Unicode.hexDigit? c
  else none

/-- The value and the suffix of an integer's digits; nothing if they are no integer's. -/
def integerFrom (base value : Nat) (seen : Bool) : List Char → Option (Nat × List Char)
  | [] => if seen then some (value, []) else none
  | c :: rest =>
    let suffix := if seen && isSuffix (c :: rest) then some (value, c :: rest) else none
    if c = '_' then integerFrom base value seen rest
    else match digitIn? base c with
      | some digit =>
        if digit < base then integerFrom base (value * base + digit) true rest else none
      | none =>
        if base = 10 && c = '.' then none
        else if base = 10 && (c = 'e' || c = 'E') && hasExponent false rest then none
        else suffix

/-- The value and the suffix of an integer literal. -/
def integer? : List Char → Option (Nat × List Char)
  | '0' :: 'x' :: digits => integerFrom 16 0 false digits
  | '0' :: 'o' :: digits => integerFrom 8 0 false digits
  | '0' :: 'b' :: digits => integerFrom 2 0 false digits
  | c :: rest => if c.isDigit then integerFrom 10 0 false (c :: rest) else none
  | [] => none

/-- How far a float has been read. -/
structure FloatProgress where
  dot : Bool
  exponent : Bool
  sign : Bool
  exponentDigit : Bool

/-- Whether the characters continue a float to its end, its suffix included. -/
def floatFrom (p : FloatProgress) : List Char → Bool
  | [] => !(p.exponent && !p.exponentDigit)
  | c :: rest =>
    let stop := !(p.exponent && !p.exponentDigit) && isSuffix (c :: rest)
    if c = '_' then floatFrom p rest
    else if c.isDigit then floatFrom { p with exponentDigit := p.exponentDigit || p.exponent } rest
    else if c = '.' then
      if p.exponent || p.dot then false else floatFrom { p with dot := true } rest
    else if c = 'e' || c = 'E' then
      match rest.dropWhile (· = '_') with
      | d :: _ =>
        if d = '-' || d = '+' || d.isDigit then
          if p.exponent then (if p.exponentDigit then stop else false)
          else floatFrom { p with exponent := true } rest
        else stop
      | [] => stop
    else if c = '-' || c = '+' then
      if p.sign || p.exponentDigit || !p.exponent then false
      else floatFrom { p with sign := true } rest
    else stop

/-- Whether the characters are a float literal. -/
def isFloat : List Char → Bool
  | [] => false
  | c :: rest => c.isDigit && floatFrom ⟨false, false, false, false⟩ (c :: rest)

/-- The kind of a literal. -/
def kind (text : String) : LiteralKind :=
  match text.toList with
  | '"' :: _ => .text
  | 'r' :: _ => .text
  | 'b' :: '\'' :: _ => .byte
  | 'b' :: _ => .byteText
  | 'c' :: _ => .cText
  | '\'' :: _ => .char
  | cs =>
    if (integer? cs).isSome then .integer
    else if isFloat cs then .float
    else .unknown

/-- Where the reading of a cooked string stands. -/
inductive CookedMode where
  /-- Between two characters of the content. -/
  | plain
  /-- After a carriage return, which a line feed must follow. -/
  | lineBreak
  /-- After a backslash. -/
  | escape
  /-- After a backslash at the end of a line: blanks are passed over. -/
  | lineEnd
  /-- Inside a two-digit escape, with the first digit's value if it has been read. -/
  | byte (first : Option Nat)
  /-- Before the opening brace of a code point escape. -/
  | openPoint
  /-- Inside the braces of a code point escape, with the value so far. -/
  | codePoint (value : Nat)

/-- The character that a one-letter escape stands for. -/
def escaped (c : Char) : Char :=
  if c = 'n' then '\n' else if c = 'r' then '\r' else if c = 't' then '\t'
  else if c = '0' then '\x00' else c

/-- The content of a string literal after its opening quote, escapes resolved, up to the
closing quote. -/
def cooked (mode : CookedMode) : List Char → List Char
  | [] => []
  | c :: rest =>
    match mode with
    | .lineBreak => '\n' :: cooked .plain rest
    | .escape =>
      if c = 'x' then cooked (.byte none) rest
      else if c = 'u' then cooked .openPoint rest
      else if c = '\n' || c = '\r' then cooked .lineEnd rest
      else escaped c :: cooked .plain rest
    | .byte none => cooked (.byte (some (Unicode.hexValue [c]))) rest
    | .byte (some first) => Char.ofNat (first * 16 + Unicode.hexValue [c]) :: cooked .plain rest
    | .openPoint => cooked (.codePoint 0) rest
    | .codePoint value =>
      if c = '\x7d' then Char.ofNat value :: cooked .plain rest
      else match Unicode.hexDigit? c with
        | some digit => cooked (.codePoint (value * 16 + digit)) rest
        | none => cooked (.codePoint value) rest
    | .lineEnd =>
      if c = ' ' || c = '\t' || c = '\n' || c = '\r' then cooked .lineEnd rest
      else if c = '"' then []
      else if c = '\\' then cooked .escape rest
      else c :: cooked .plain rest
    | .plain =>
      if c = '"' then []
      else if c = '\r' then cooked .lineBreak rest
      else if c = '\\' then cooked .escape rest
      else c :: cooked .plain rest

/-- The content of a raw string after its opening quote, up to a quote with this many
number signs behind it. -/
def rawContent (signs : Nat) : List Char → List Char
  | [] => []
  | c :: rest =>
    if c = '"' && rest.take signs == List.replicate signs '#' then []
    else c :: rawContent signs rest

/-- The content of a string literal. -/
def content (text : String) : String :=
  match text.toList with
  | '"' :: body => String.ofList (cooked .plain body)
  | 'r' :: rest =>
    let signs := (rest.takeWhile (· = '#')).length
    String.ofList (rawContent signs (rest.drop (signs + 1)))
  | _ => ""

/-- What follows the closing quote of a cooked string, given its body. -/
def behindCooked : List Char → List Char
  | [] => []
  | '\\' :: _ :: rest => behindCooked rest
  | c :: rest => if c = '"' then rest else behindCooked rest

/-- The suffix of a string literal. -/
def suffix (text : String) : String :=
  match text.toList with
  | '"' :: body => String.ofList (behindCooked body)
  | 'r' :: rest =>
    let signs := (rest.takeWhile (· = '#')).length
    let body := rest.drop (signs + 1)
    String.ofList (body.drop ((rawContent signs body).length + signs + 1))
  | _ => ""

end Literal

end DeclSynth
