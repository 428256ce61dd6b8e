import DeclSynth.Syntax.Printer
import DeclSynth.Syntax.Error
import DeclSynth.Token.Literal

/-!
# Reading syntax trees

A `Reader` stands before the tokens left at one level of nesting. While it takes tokens
it writes down how they print: operators with joints inside them and none behind, words
and literals as they are. A tree that prints otherwise than its tokens stand replaces
what its reading wrote (`rendered`), and tokens kept unread are written as they were
(`verbatim`). What a group still holds when its reading ends is remembered, and reported
once the whole reading has succeeded. The types and lifetimes that are read are mentioned,
for the expressions around them; those in tokens that are kept unread are not.
-/

namespace DeclSynth

/-- The state of a reading. -/
structure Reader where
  /-- The tokens left at this level. -/
  rest : Tokens
  /-- Where an error at the end of this level points. -/
  scope : Span
  /-- The delimiter around this level. -/
  within : Option Delimiter
  /-- Where the last token taken stands. -/
  last : Span
  /-- The first token that was left over in a group. -/
  leftover : Option (Span × Option Delimiter)
  /-- The tokens written so far. -/
  written : Array Token
  /-- The types and lifetimes mentioned so far. -/
  mentioned : Array Mention

/-- A reading that yields a value or stops with a syntax error. -/
abbrev Parser := StateT Reader (Except SyntaxError)

namespace Parser

/-- Stops with an error at a place. -/
def failAt {α : Type} (span : Span) (cause : SyntaxCause) : Parser α :=
  throw ⟨span, false, cause⟩

/-- Where the next token stands, or the end of the level. -/
def here : Parser Span := do
  let r ← get
  match r.rest with
  | [] => return r.scope
  | t :: _ => return t.errorSpan

/-- Stops at the next token, saying so if there is none. -/
def fail {α : Type} (cause : SyntaxCause) : Parser α := do
  throw ⟨← here, (← get).rest.isEmpty, cause⟩

/-- Stops because none of these was there. -/
def expected {α : Type} (wanted : List Wanted) : Parser α := fail (.expected wanted)

/-- Whether no token is left at this level. -/
def atEnd : Parser Bool := return (← get).rest.isEmpty

/-- Writes tokens. -/
def write (ts : Tokens) : Parser Unit := modify fun r => { r with written := r.written ++ ts }

/-- Takes the next tokens, the last of which stands at `last`, without writing them. -/
def advance (rest : Tokens) (last : Span) : Parser Unit :=
  modify fun r => { r with rest := rest, last := last }

/-- The value of a reading that is then undone; nothing if it fails. -/
def lookahead {α : Type} (p : Parser α) : Parser (Option α) := fun r =>
  match p r with
  | .ok (a, _) => .ok (some a, r)
  | .error _ => .ok (none, r)

/-- The value of a reading that is then undone, and that has to succeed. -/
def ahead {α : Type} (p : Parser α) : Parser α := fun r =>
  match p r with
  | .ok (a, _) => .ok (a, r)
  | .error e => .error e

/-- Does a reading if it succeeds, else nothing. -/
def attempt {α : Type} (p : Parser α) : Parser (Option α) := fun r =>
  match p r with
  | .ok (a, after) => .ok (some a, after)
  | .error _ => .ok (none, r)

/-! ## Looking at tokens

A test looks at the tokens in front of it. `skip` passes over one token tree, taking a
lifetime for one. -/

/-- Whether the tokens begin with an operator: its characters, joint except for the last. -/
def startsOp : List Char → Tokens → Bool
  | [], _ => true
  | [c], .punct d _ _ :: _ => c == d && c != '\''
  | c :: cs, .punct d joint _ :: rest => c == d && joint && c != '\'' && startsOp cs rest
  | _, _ => false

/-- Whether an operator comes first. -/
def isOp (text : String) (ts : Tokens) : Bool := startsOp text.toList ts

/-- Whether a keyword comes first. -/
def isKw (text : String) : Tokens → Bool
  | .word t _ :: _ => t == text
  | _ => false

/-- Whether any word comes first. -/
def isWord : Tokens → Bool
  | .word _ _ :: _ => true
  | _ => false

/-- Whether a name comes first: a word that is not reserved. -/
def isName : Tokens → Bool
  | .word t _ :: _ => !Ident.isReserved t
  | _ => false

/-- Whether a lifetime comes first. -/
def isLifetime : Tokens → Bool
  | .punct '\'' true _ :: .word _ _ :: _ => true
  | _ => false

/-- Whether a group with this delimiter comes first. -/
def isGroup (d : Delimiter) : Tokens → Bool
  | .group e _ _ :: _ => d == e
  | _ => false

/-- Whether a number literal comes first. -/
def isNumber : Tokens → Bool
  | .literal t _ :: _ => [.integer, .float].contains (Literal.kind t)
  | _ => false

/-- Whether a literal comes first: a literal token, `true` or `false`, or a negative number. -/
def isLiteral : Tokens → Bool
  | .literal _ _ :: _ => true
  | .word t _ :: _ => t == "true" || t == "false"
  | .punct '-' _ _ :: rest => isNumber rest
  | _ => false

/-- Whether a literal of this kind comes first. -/
def isLiteralOf (kind : LiteralKind) : Tokens → Bool
  | .literal t _ :: _ => Literal.kind t == kind
  | _ => false

/-- The tokens after the first token tree. -/
def skip : Tokens → Tokens
  | .punct '\'' true _ :: .word _ _ :: rest => rest
  | _ :: rest => rest
  | [] => []

/-- Whether a test holds of the tokens left. -/
def peek (test : Tokens → Bool) : Parser Bool := return test (← get).rest

/-- Whether a test holds after the next token tree. -/
def peek2 (test : Tokens → Bool) : Parser Bool := do
  match (← get).rest with
  | [] => return false
  | ts => return test (skip ts)

/-- Whether a test holds after the next two token trees. -/
def peek3 (test : Tokens → Bool) : Parser Bool := do
  match (← get).rest with
  | [] => return false
  | ts => match skip ts with
    | [] => return false
    | ts => return test (skip ts)

/-- Whether one of several tests holds of the tokens left. -/
def peekAny (tests : List (Tokens → Bool)) : Parser Bool := do
  let ts := (← get).rest
  return tests.any (· ts)

/-! ## Taking tokens -/

/-- Takes an operator and gives the place of its first character. An error points at the
first character, and does not tell whether the tokens ran out. -/
def sign (text : String) : Parser Span := do
  let r ← get
  let first ← here
  if isOp text r.rest then
    let taken := r.rest.take text.length
    let spans := taken.map Token.span
    write ((text.toList.zip spans).mapIdx fun i (c, span) => .punct c (i + 1 < text.length) span)
    advance (r.rest.drop text.length) (spans.getLast?.getD first)
    return first
  else failAt first (.expected [.token text])

/-- Takes an operator if it comes first, and tells whether it did. -/
def sign? (text : String) : Parser Bool := do
  if ← peek (isOp text) then
    let _ ← sign text
    return true
  else return false

/-- Takes the next token as it is. -/
def takeWord (t : String) (span : Span) : Parser Unit := do
  write [.word t span]
  advance ((← get).rest.drop 1) span

/-- Takes a keyword and gives its place. -/
def keyword (text : String) : Parser Span := do
  match (← get).rest with
  | .word t span :: _ =>
    if t == text then
      takeWord t span
      return span
    else expected [.token text]
  | _ => expected [.token text]

/-- Takes a keyword if it comes first, and gives its place. -/
def keyword? (text : String) : Parser (Option Span) := do
  if ← peek (isKw text) then return some (← keyword text) else return none

/-- Takes any word as an identifier. -/
def anyIdent : Parser Ident := do
  match (← get).rest with
  | .word t span :: _ =>
    match Ident.ofText? t span with
    | some i =>
      takeWord t span
      return i
    | none => expected [.kind "identifier"]
  | _ => expected [.kind "identifier"]

/-- Takes a name; a reserved word is none. -/
def ident : Parser Ident := do
  match (← get).rest with
  | .word t _ :: _ => if Ident.isReserved t then fail (.keyword t) else anyIdent
  | _ => expected [.kind "identifier"]

/-- Notes what is mentioned. -/
def mention (m : Mention) : Parser Unit :=
  modify fun r => { r with mentioned := r.mentioned.push m }

/-- Takes a lifetime. -/
def lifetime : Parser Lifetime := do
  match (← get).rest with
  | .punct '\'' true quote :: .word name span :: rest =>
    let l : Lifetime := ⟨name, quote.join span⟩
    write l.tokens
    advance rest span
    mention (.lifetime l)
    return l
  | _ => expected [.kind "lifetime"]

/-- Takes a lifetime if one comes first. -/
def lifetime? : Parser (Option Lifetime) := do
  if ← peek isLifetime then return some (← lifetime) else return none

/-- Takes a literal and gives its text; a negative number keeps its sign apart. -/
def literal : Parser String := do
  let r ← get
  if isLiteral r.rest then
    match r.rest with
    | .literal t span :: rest =>
      write [.literal t span]
      advance rest span
      return t
    | .word t span :: _ =>
      takeWord t span
      return t
    | .punct _ _ minus :: .literal t span :: rest =>
      write [.punct '-' false minus, .literal t span]
      advance rest span
      return "-" ++ t
    | _ => expected [.kind "literal"]
  else expected [.kind "literal"]

/-- Takes a string literal and gives its text and place. -/
def stringLiteral : Parser (String × Span) := do
  match (← get).rest with
  | .literal t span :: rest =>
    if Literal.kind t = .text then
      write [.literal t span]
      advance rest span
      return (t, span)
    else expected [.kind "string literal"]
  | _ => expected [.kind "string literal"]

/-- Takes the tokens of this level that are left, as they are. -/
def takeRest : Parser Tokens := do
  let ts := (← get).rest
  write ts
  advance [] ((ts.getLast?.map Token.span).getD (← get).last)
  return ts

/-- What messages call a pair of delimiters. -/
def delimiterName : Delimiter → String
  | .parenthesis => "parentheses"
  | .bracket => "square brackets"
  | .brace => "curly braces"

/-- Reads inside a group and writes the group around what that wrote. Tokens that stay
unread in it are remembered. -/
def inside {α : Type} (d : Delimiter) (p : Parser α) : Parser α := do
  let outer ← get
  match outer.rest with
  | .group e body span :: rest =>
    if d = e then
      set { outer with
        rest := body, scope := span.closing, within := some d, last := span.opening,
        written := #[] }
      let a ← p
      let inner ← get
      let leftover := inner.leftover <|>
        inner.rest.head?.map fun t => (t.span, some d)
      set { inner with
        rest := rest, scope := outer.scope, within := outer.within, last := span
        leftover := leftover
        written := outer.written.push (.group d inner.written.toList span) }
      return a
    else expected [.kind (delimiterName d)]
  | _ => expected [.kind (delimiterName d)]

/-- Takes a group of any delimiter as it is. -/
def anyGroup : Parser (Delimiter × Tokens × Span) := do
  match (← get).rest with
  | .group d body span :: rest =>
    write [.group d body span]
    advance rest span
    return (d, body, span)
  | _ => expected [.kind "delimiter"]

/-! ## Writing otherwise -/

/-- Does a reading and gives what it wrote, without writing it. -/
def captured {α : Type} (p : Parser α) : Parser (α × Tokens) := do
  let before := (← get).written
  modify fun r => { r with written := #[] }
  let a ← p
  let written := (← get).written
  modify fun r => { r with written := before }
  return (a, written.toList)

/-- Does a reading and gives what it wrote. -/
def recorded {α : Type} (p : Parser α) : Parser (α × Tokens) := do
  let (a, written) ← captured p
  write written
  return (a, written)

/-- Does a reading and writes the tokens of its value instead of its own. -/
def rendered {α : Type} (tokens : α → Tokens) (p : Parser α) : Parser α := do
  let (a, _) ← captured p
  write (tokens a)
  return a

/-- Does a reading whose tokens are written, and given, as they stood if `stood` holds of its value,
and else as it wrote them. -/
def verbatimIf {α : Type} (stood : α → Bool) (p : Parser α) : Parser (α × Tokens) := do
  let start := (← get).rest
  let (a, written) ← captured p
  let left := (← get).rest.length
  let tokens := if stood a then start.take (start.length - left) else written
  write tokens
  return (a, tokens)

/-- Does a reading whose tokens are then written, and given, as they stood. -/
def verbatim {α : Type} (p : Parser α) : Parser (α × Tokens) := verbatimIf (fun _ => true) p

/-- Does a reading and gives what it mentions, without mentioning it. -/
def mentioning {α : Type} (p : Parser α) : Parser (α × List Mention) := do
  let before := (← get).mentioned
  modify fun r => { r with mentioned := #[] }
  let a ← p
  let mentioned := (← get).mentioned
  modify fun r => { r with mentioned := before }
  return (a, mentioned.toList)

/-- Does a reading that mentions nothing if `unread` holds of its value. -/
def unmentionedIf {α : Type} (unread : α → Bool) (p : Parser α) : Parser α := do
  let before := (← get).mentioned
  let a ← p
  modify fun r => { r with mentioned := if unread a then before else r.mentioned }
  return a

/-- Does a reading and gives the place of what it took. -/
def spanned {α : Type} (p : Parser α) : Parser (α × Span) := do
  let first := match (← get).rest with
    | t :: _ => t.span
    | [] => .callSite
  let a ← p
  return (a, first.join (← get).last)

/-! ## Repetition

Every repetition takes a token in each round, so the number of tokens left bounds it. -/

/-- Repeats a step that gives the next state, or a result to stop with. -/
def iterateUpTo {σ α : Type} (step : σ → Parser (σ ⊕ α)) : Nat → σ → Parser α
  | 0, _ => fail (.leftover none)
  | n + 1, s => do
    match ← step s with
    | .inl next => iterateUpTo step n next
    | .inr result => return result

/-- Repeats a step until it gives a result. -/
def iterate {σ α : Type} (step : σ → Parser (σ ⊕ α)) (s : σ) : Parser α := do
  iterateUpTo step ((← get).rest.length + 2) s

/-- Values with a separator between them, and whether it follows the last one too. -/
structure Separated (α : Type) where
  values : List α
  trailing : Bool

/-- Reads values with a separator between them. `stop` is asked before each value; where a
separator does not come after a value, `ends` tells whether the list is over or lacks one. -/
def separatedWith {α : Type} (separator : String) (stop ends : Parser Bool) (value : Parser α) :
    Parser (Separated α) :=
  iterate (fun (values, trailing) => do
    if ← stop then return .inr ⟨values.reverse, trailing⟩
    let v ← value
    if ← ends then return .inr ⟨(v :: values).reverse, false⟩
    let _ ← sign separator
    return .inl (v :: values, true)) ([], false)

/-- Reads values with commas between them up to the end of the level. -/
def commaSeparated {α : Type} (value : Parser α) : Parser (Separated α) :=
  separatedWith "," atEnd atEnd value

/-- Reads values up to the end of the level. -/
def untilEnd {α : Type} (value : Parser α) : Parser (List α) :=
  iterate (fun values => do
    if ← atEnd then return .inr values.reverse
    return .inl ((← value) :: values)) []

/-- Reads values as long as a test holds. -/
def whilePeek {α : Type} (test : Tokens → Bool) (value : Parser α) : Parser (List α) :=
  iterate (fun values => do
    if ← peek test then return .inl ((← value) :: values)
    return .inr values.reverse) []

/-- Does a complete reading: nothing may be left over, in a group or at the end. An error at
the end of the tokens points at `scope`. -/
def run {α : Type} (p : Parser α) (scope : Span) (ts : Tokens) : Except SyntaxError α := do
  let (a, r) ← StateT.run p ⟨ts, scope, none, .callSite, none, #[], #[]⟩
  match r.leftover, r.rest with
  | some (span, within), _ => throw ⟨span, false, .leftover within⟩
  | none, t :: _ => throw ⟨t.span, false, .leftover none⟩
  | none, [] => return a

end Parser

end DeclSynth
