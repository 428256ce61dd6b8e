import DeclSynth.Token
import DeclSynth.Token.Scan
import DeclSynth.Unicode.Blank

/-!
# Reading tokens

`lex` reads a source text into token trees, or nothing if the text is no sequence of
tokens. It goes in two steps: `lexemes` cuts the text into opening delimiters, closing
delimiters and single tokens, and `assemble` nests them. A documentation comment becomes
the attribute it abbreviates, every token of which stands where the comment stands.
-/

namespace DeclSynth

/-- What a source text is cut into before its groups are put together. -/
inductive Lexeme where
  | opening (delimiter : Delimiter) (span : Span)
  | closing (delimiter : Delimiter) (span : Span)
  | token (token : Token)

namespace Lexeme

/-- The attribute that a documentation comment abbreviates. -/
def ofComment (inner : Bool) (body : List Char) (span : Span) : List Lexeme :=
  let sign (c : Char) : Token := .punct c false span
  let content : Tokens :=
    [.word "doc" span, sign '=', .literal (Text.literal (String.ofList body)) span]
  let bang : Tokens := if inner then [sign '!'] else []
  ([sign '#'] ++ bang ++ [Token.group .bracket content span]).map .token

/-- Whether every carriage return stands before a line feed. -/
def breaksLines : List Char → Bool
  | [] => true
  | '\r' :: rest => rest.head? == some '\n' && breaksLines rest
  | _ :: rest => breaksLines rest

/-- What a comment amounts to: whether it is an inner documentation comment, and its text
if it is a documentation comment at all. -/
structure Comment where
  inner : Bool
  body : Option (List Char)
  rest : List Char

/-- Reads the comment that starts here; a block comment has to end. -/
def comment? : List Char → Option Comment
  | '/' :: '/' :: '!' :: cs => let (body, rest) := Scan.line cs; some ⟨true, some body, rest⟩
  | '/' :: '/' :: '/' :: cs =>
    let (body, rest) := Scan.line cs
    some ⟨false, if cs.head? = some '/' then none else some body, rest⟩
  | '/' :: '/' :: cs => some ⟨false, none, (Scan.line cs).2⟩
  | cs@('/' :: '*' :: marks) =>
    (Scan.block? 0 cs).map fun (text, rest) =>
      let body := (text.drop 3).take (text.length - 5)
      match marks with
      | '!' :: _ => ⟨true, some body, rest⟩
      | '*' :: '*' :: _ => ⟨false, none, rest⟩
      | '*' :: '/' :: _ => ⟨false, none, rest⟩
      | '*' :: _ => ⟨false, some body, rest⟩
      | _ => ⟨false, none, rest⟩
  | _ => none

/-- The delimiter that a character opens. -/
def openedBy? (c : Char) : Option Delimiter :=
  [Delimiter.parenthesis, .bracket, .brace].find? (·.opening == c)

/-- The delimiter that a character closes. -/
def closedBy? (c : Char) : Option Delimiter :=
  [Delimiter.parenthesis, .bracket, .brace].find? (·.closing == c)

/-- The token that comes first and is neither a delimiter nor a comment, with what is left:
a literal if one can be read, else a punctuation character, else an identifier. -/
def leaf? (cs : List Char) (pos : Position) : Option (Token × List Char) :=
  let upTo (rest : List Char) : String := String.ofList (Scan.before cs rest)
  let spanTo (rest : List Char) : Span := .source pos (pos.advance (Scan.before cs rest))
  match Scan.literal? cs with
  | some rest => some (.literal (upTo rest) (spanTo rest), rest)
  | none =>
    let rest := cs.drop 1
    match Scan.punct? cs with
    | some '\'' =>
      if Scan.startsLifetime rest then some (.punct '\'' true (spanTo rest), rest) else none
    | some c => some (.punct c (Scan.punct? rest).isSome (spanTo rest), rest)
    | none =>
      if Scan.beginsAsLiteral cs then none
      else (Scan.ident? cs).map fun rest => (.word (upTo rest) (spanTo rest), rest)

/-- One step: the lexemes that come first (none for a blank or a plain comment) and what is
left after them. -/
def next? (cs : List Char) (pos : Position) : Option (List Lexeme × List Char) :=
  match cs with
  | [] => none
  | c :: rest =>
    if Unicode.isBlank c then some ([], rest)
    else if Scan.startsComment cs then
      (comment? cs).bind fun comment =>
        match comment.body with
        | none => some ([], comment.rest)
        | some body =>
          if breaksLines body then
            let stop := pos.advance (Scan.before cs comment.rest)
            some (ofComment comment.inner body (.source pos stop), comment.rest)
          else none
    else
      let span := Span.source pos (pos.next c)
      match openedBy? c, closedBy? c with
      | some delimiter, _ => some ([.opening delimiter span], rest)
      | none, some delimiter => some ([.closing delimiter span], rest)
      | none, none => (leaf? cs pos).map fun (t, rest) => ([.token t], rest)

/-- The lexemes of a text that takes no more than `steps` steps. -/
def readAll : (steps : Nat) → List Char → Position → Option (List Lexeme)
  | _, [], _ => some []
  | 0, _ :: _, _ => none
  | steps + 1, cs@(_ :: _), pos =>
    (next? cs pos).bind fun (found, rest) =>
      (readAll steps rest (pos.advance (Scan.before cs rest))).map (found ++ ·)

end Lexeme

/-- The lexemes of a source text; a byte order mark at its very start is passed over. -/
def lexemes (source : String) : Option (List Lexeme) :=
  match source.toList with
  | '\uFEFF' :: cs => Lexeme.readAll cs.length cs (Position.start.next '\uFEFF')
  | cs => Lexeme.readAll cs.length cs .start

/-- A group that has been opened and not closed, with the tokens before it, last one first. -/
structure OpenGroup where
  delimiter : Delimiter
  span : Span
  before : List Token

/-- Nests lexemes into token trees. The tokens of the innermost open group so far come last
one first; nothing results if delimiters do not match. -/
def assemble : List OpenGroup → List Token → List Lexeme → Option Tokens
  | [], done, [] => some done.reverse
  | _ :: _, _, [] => none
  | groups, done, .token t :: rest => assemble groups (t :: done) rest
  | groups, done, .opening delimiter span :: rest =>
    assemble (⟨delimiter, span, done⟩ :: groups) [] rest
  | [], _, .closing _ _ :: _ => none
  | g :: groups, done, .closing delimiter span :: rest =>
    if g.delimiter = delimiter then
      assemble groups (.group delimiter done.reverse (g.span.join span) :: g.before) rest
    else none

/-- The token trees of a source text, if it is a sequence of tokens. -/
def lex (source : String) : Option Tokens :=
  (lexemes source).bind (assemble [] [])

end DeclSynth
