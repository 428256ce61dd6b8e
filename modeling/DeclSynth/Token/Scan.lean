import DeclSynth.Token.Ident

/-!
# Scanning one token

Each function here takes the characters that are left and gives what is left after one
token of its kind, or nothing if no such token starts there. Strings of the three
quotations are followed by a machine of a few modes, one character at a time.
-/

namespace DeclSynth.Scan

/-- What is left after a word. -/
def word? : List Char → Option (List Char)
  | c :: rest =>
    if Unicode.isIdentifierStart c then some (rest.dropWhile Unicode.isIdentifierContinue) else none
  | [] => none

/-- What is left after a word if one comes first, else everything. -/
def suffix (cs : List Char) : List Char := (word? cs).getD cs

/-- Whether a character may be part of a hexadecimal number. -/
def isHexDigit (c : Char) : Bool := (Unicode.hexDigit? c).isSome

/-- The three kinds of string. -/
inductive Quotation where
  | text
  | bytes
  | cText
deriving DecidableEq

/-- Whether a string of this kind may hold the character as it is. -/
def Quotation.admits (q : Quotation) (c : Char) : Bool :=
  match q with
  | .text => true
  | .bytes => Unicode.isAscii c
  | .cText => c ≠ '\x00'

/-- Where the scan of a cooked string stands. -/
inductive Mode where
  /-- Between two characters. -/
  | plain
  /-- After a carriage return, which a line feed must follow. -/
  | lineBreak
  /-- After a backslash. -/
  | escape
  /-- Before the first digit of a two-digit escape. -/
  | firstDigit
  /-- Before its second digit; `zero` if the first one was zero. -/
  | secondDigit (zero : Bool)
  /-- Before the brace of a code point escape. -/
  | openPoint
  /-- Inside its braces, after some digits with this value. -/
  | codePoint (digits value : Nat)
  /-- In the blanks after a backslash at the end of a line. -/
  | lineEnd
  /-- There, after a carriage return. -/
  | lineEndBreak
deriving DecidableEq

/-- What one character of a cooked string leads to. -/
inductive Step where
  /-- The closing quote. -/
  | close
  /-- The string goes on. -/
  | go (mode : Mode)
  /-- No string of this kind holds the character here. -/
  | refuse
deriving DecidableEq

/-- Goes on in a mode if a condition holds. -/
def Step.goIf (holds : Bool) (mode : Mode) : Step := if holds then .go mode else .refuse

/-- A character between two others. -/
def plainStep (q : Quotation) (c : Char) : Step :=
  if c = '"' then .close
  else if c = '\r' then .go .lineBreak
  else if c = '\\' then .go .escape
  else .goIf (q.admits c) .plain

/-- A character after a backslash. -/
def escapeStep (q : Quotation) (c : Char) : Step :=
  if c = 'x' then .go .firstDigit
  else if c = 'u' then .goIf (q ≠ .bytes) .openPoint
  else if c = '0' then .goIf (q ≠ .cText) .plain
  else if c = '\n' then .go .lineEnd
  else if c = '\r' then .go .lineEndBreak
  else .goIf (['n', 'r', 't', '\\', '\'', '"'].contains c) .plain

/-- A character inside the braces of a code point escape: at most six digits, underscores
after the first, and a value that is a character. -/
def codePointStep (q : Quotation) (digits value : Nat) (c : Char) : Step :=
  match Unicode.hexDigit? c with
  | some digit => .goIf (digits < 6) (.codePoint (digits + 1) (value * 16 + digit))
  | none =>
    if c = '_' then .goIf (0 < digits) (.codePoint digits value)
    else if c = '\x7d' then
      .goIf (0 < digits && Nat.isValidChar value && !(q = .cText && value = 0)) .plain
    else .refuse

/-- What a character of a cooked string leads to. -/
def step (q : Quotation) (mode : Mode) (c : Char) : Step :=
  match mode with
  | .plain => plainStep q c
  | .lineBreak => .goIf (c = '\n') .plain
  | .escape => escapeStep q c
  | .firstDigit =>
    .goIf (if q = .text then '0' ≤ c && c ≤ '7' else isHexDigit c) (.secondDigit (c = '0'))
  | .secondDigit zero => .goIf (isHexDigit c && !(q = .cText && zero && c = '0')) .plain
  | .openPoint => .goIf (c = '\x7b') (.codePoint 0 0)
  | .codePoint digits value => codePointStep q digits value c
  | .lineEnd =>
    if c = ' ' || c = '\t' || c = '\n' then .go .lineEnd
    else if c = '\r' then .go .lineEndBreak
    else plainStep q c
  | .lineEndBreak => .goIf (c = '\n') .lineEnd

/-- What is left after the closing quote of a cooked string. -/
def cookedRest? (q : Quotation) (mode : Mode) : List Char → Option (List Char)
  | [] => none
  | c :: rest =>
    match step q mode c with
    | .close => some rest
    | .go next => cookedRest? q next rest
    | .refuse => none

/-- What is left after one escape, which no end of line may be. -/
def escapeRest? (q : Quotation) (mode : Mode) : List Char → Option (List Char)
  | [] => none
  | c :: rest =>
    match step q mode c with
    | .go .plain => some rest
    | .go .lineEnd | .go .lineEndBreak => none
    | .go next => escapeRest? q next rest
    | _ => none

/-- What is left after the closing quote of a raw string with this many number signs. -/
def rawRest? (q : Quotation) (signs : Nat) : List Char → Option (List Char)
  | [] => none
  | c :: rest =>
    if c = '"' && rest.take signs == List.replicate signs '#' then some (rest.drop signs)
    else if c = '\r' && rest.head? ≠ some '\n' then none
    else if q.admits c then rawRest? q signs rest
    else none

/-- What is left after a raw string, from behind its `r`; at most 255 number signs. -/
def raw? (q : Quotation) (cs : List Char) : Option (List Char) :=
  let signs := (cs.takeWhile (· = '#')).length
  match cs.drop signs with
  | '"' :: body => if signs ≤ 255 then rawRest? q signs body else none
  | _ => none

/-- What is left after a character literal, from behind its opening quote. -/
def quoted? (q : Quotation) : List Char → Option (List Char)
  | '\\' :: rest => (escapeRest? q .escape rest).bind closingQuote?
  | c :: rest => if q.admits c then closingQuote? rest else none
  | [] => none
where
  /-- What is left after a closing single quote. -/
  closingQuote? : List Char → Option (List Char)
    | '\'' :: rest => some rest
    | _ => none

/-- What is left after a string or a character of any kind, without its suffix. -/
def quotedLiteral? : List Char → Option (List Char)
  | '"' :: body => cookedRest? .text .plain body
  | 'r' :: rest => raw? .text rest
  | 'b' :: '"' :: body => cookedRest? .bytes .plain body
  | 'b' :: 'r' :: rest => raw? .bytes rest
  | 'c' :: '"' :: body => cookedRest? .cText .plain body
  | 'c' :: 'r' :: rest => raw? .cText rest
  | 'b' :: '\'' :: body => quoted? .bytes body
  | '\'' :: body => quoted? .text body
  | _ => none

/-- How the digits of a float end. -/
structure Mantissa where
  /-- What is left, from the exponent's letter if there is one. -/
  rest : List Char
  dot : Bool
  exponent : Bool

/-- The digits of a float up to its exponent. A dot that another dot or a word follows is
no part of a float. -/
def mantissa? (dot : Bool) : List Char → Option Mantissa
  | [] => some ⟨[], dot, false⟩
  | c :: rest =>
    if c.isDigit || c = '_' then mantissa? dot rest
    else if c = '.' then
      if dot then some ⟨c :: rest, dot, false⟩
      else match rest with
        | d :: _ =>
          if d = '.' || Unicode.isIdentifierStart d then none else mantissa? true rest
        | [] => some ⟨[], true, false⟩
    else if c = 'e' || c = 'E' then some ⟨c :: rest, dot, true⟩
    else some ⟨c :: rest, dot, false⟩

/-- What is left after an exponent, from behind its letter; nothing if it has no digits. -/
def exponent? (sign digit : Bool) : List Char → Option (List Char)
  | [] => if digit then some [] else none
  | c :: rest =>
    if c = '+' || c = '-' then
      if digit then some (c :: rest) else if sign then none else exponent? true digit rest
    else if c.isDigit then exponent? sign true rest
    else if c = '_' then exponent? sign digit rest
    else if digit then some (c :: rest)
    else none

/-- What is left after the digits of a float. Letters that make no exponent are left to the
suffix, if a dot has made the number a float already. -/
def floatDigits? (cs : List Char) : Option (List Char) :=
  match cs with
  | c :: rest =>
    if c.isDigit then
      match mantissa? false rest with
      | none => none
      | some m =>
        if m.exponent then
          match exponent? false false (m.rest.drop 1) with
          | some rest => some rest
          | none => if m.dot then some m.rest else none
        else if m.dot then some m.rest
        else none
    else none
  | [] => none

/-- What is left after digits of a base, `seen` if there were some already. -/
def digitsOf? (base : Nat) (seen : Bool) : List Char → Option (List Char)
  | [] => if seen then some [] else none
  | c :: rest =>
    let stop := if seen then some (c :: rest) else none
    if c = '_' then
      if !seen && base = 10 then none else digitsOf? base seen rest
    else match Unicode.hexDigit? c with
      | some digit =>
        if digit < base then digitsOf? base true rest
        else if c.isDigit then none
        else stop
      | none => stop

/-- What is left after the digits of an integer, its base mark included. -/
def integerDigits? : List Char → Option (List Char)
  | '0' :: 'x' :: digits => digitsOf? 16 false digits
  | '0' :: 'o' :: digits => digitsOf? 8 false digits
  | '0' :: 'b' :: digits => digitsOf? 2 false digits
  | digits => digitsOf? 10 false digits

/-- Takes the suffix of a number, after which no word character may come. -/
def numberEnd? (cs : List Char) : Option (List Char) :=
  let rest := suffix cs
  match rest with
  | c :: _ => if Unicode.isIdentifierContinue c then none else some rest
  | [] => some rest

/-- What is left after a number. -/
def number? (cs : List Char) : Option (List Char) :=
  match (floatDigits? cs).bind numberEnd? with
  | some rest => some rest
  | none => (integerDigits? cs).bind numberEnd?

/-- What is left after a literal, its suffix included. -/
def literal? (cs : List Char) : Option (List Char) :=
  match quotedLiteral? cs with
  | some rest => some (suffix rest)
  | none => number? cs

/-- Whether a comment starts here. -/
def startsComment : List Char → Bool
  | '/' :: '/' :: _ => true
  | '/' :: '*' :: _ => true
  | _ => false

/-- The punctuation characters. -/
def punctuation : List Char := "~!@#$%^&*-=+|;:,<.>/?'".toList

/-- The punctuation character that comes first, if one does; the slash of a comment is none. -/
def punct? (cs : List Char) : Option Char :=
  match cs with
  | c :: _ => if punctuation.contains c && !startsComment cs then some c else none
  | [] => none

/-- The characters before what is left of them. -/
def before (cs rest : List Char) : List Char := cs.take (cs.length - rest.length)

/-- What is left after an identifier, which may be raw. -/
def ident? (cs : List Char) : Option (List Char) :=
  match cs with
  | 'r' :: '#' :: word =>
    (word? word).filter fun rest => !Ident.neverRaw.contains (String.ofList (before word rest))
  | _ => word? cs

/-- Whether the quote before these characters starts a lifetime: a word follows it, with no
quote after it and no number sign unless the word was raw. -/
def startsLifetime (cs : List Char) : Bool :=
  match ident? cs with
  | some ('\'' :: _) => false
  | some ('#' :: _) => cs.take 2 == ['r', '#']
  | some _ => true
  | none => false

/-- The beginnings that only literals have. -/
def literalBeginnings : List (List Char) :=
  ["r\"", "r#\"", "r##", "b\"", "b\'", "br\"", "br#", "c\"", "cr\"", "cr#"].map String.toList

/-- Whether the characters begin as a literal does. -/
def beginsAsLiteral (cs : List Char) : Bool := literalBeginnings.any (·.isPrefixOf cs)

/-- The characters before the end of the line, and what is left from the line feed on. -/
def line : List Char → List Char × List Char
  | [] => ([], [])
  | '\r' :: '\n' :: rest => ([], '\n' :: rest)
  | c :: rest =>
    if c = '\n' then ([], c :: rest)
    else ((c :: (line rest).1), (line rest).2)

/-- The characters of a block comment up to its end, and what is left; comments nest. -/
def block? (depth : Nat) : List Char → Option (List Char × List Char)
  | '/' :: '*' :: rest => (block? (depth + 1) rest).map fun (body, r) => ('/' :: '*' :: body, r)
  | '*' :: '/' :: rest =>
    if depth ≤ 1 then some (['*', '/'], rest)
    else (block? (depth - 1) rest).map fun (body, r) => ('*' :: '/' :: body, r)
  | c :: rest => (block? depth rest).map fun (body, r) => (c :: body, r)
  | [] => none

end DeclSynth.Scan
