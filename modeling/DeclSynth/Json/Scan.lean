import DeclSynth.Number.Decimal
import DeclSynth.Text.Quoted
import DeclSynth.Unicode.Table

/-!
# Reading JSON text

A `Cursor` stands before the characters left of a text and knows its place: the line, and
the column in bytes. The scans here take blanks, strings and numbers, and pass over
whole values. A fault names its cause and the place of the cursor, or the place one byte
further on where the cause is the character in front.
-/

namespace DeclSynth.Json

/-- What may be wrong with a JSON text. -/
inductive Fault where
  | endInList
  | endInObject
  | endInString
  | endInValue
  | expectedColon
  | expectedListEnd
  | expectedObjectEnd
  | expectedWord
  | expectedValue
  | invalidEscape
  | invalidNumber
  | numberTooLarge
  | controlCharacter
  | keyNotString
  | loneSurrogate
  | unfinishedSurrogate
  | trailingComma
  | trailingCharacters
  /-- A value of a type that was not asked for. -/
  | wrongType (found wanted : String)
  /-- A value of a type that was asked for, but not one of the wanted ones. -/
  | wrongValue (found wanted : String)
  | duplicateField (name : String)
deriving DecidableEq, Repr

/-- The wording of a fault. -/
def Fault.text : Fault → String
  | endInList => "EOF while parsing a list"
  | endInObject => "EOF while parsing an object"
  | endInString => "EOF while parsing a string"
  | endInValue => "EOF while parsing a value"
  | expectedColon => "expected `:`"
  | expectedListEnd => "expected `,` or `]`"
  | expectedObjectEnd => "expected `,` or `\x7d`"
  | expectedWord => "expected ident"
  | expectedValue => "expected value"
  | invalidEscape => "invalid escape"
  | invalidNumber => "invalid number"
  | numberTooLarge => "number out of range"
  | controlCharacter => "control character (\\u0000-\\u001F) found while parsing a string"
  | keyNotString => "key must be a string"
  | loneSurrogate => "lone leading surrogate in hex escape"
  | unfinishedSurrogate => "unexpected end of hex escape"
  | trailingComma => "trailing comma"
  | trailingCharacters => "trailing characters"
  | wrongType found wanted => "invalid type: " ++ found ++ ", expected " ++ wanted
  | wrongValue found wanted => "invalid value: " ++ found ++ ", expected " ++ wanted
  | duplicateField name => "duplicate field `" ++ name ++ "`"

/-- A place in a text: the line from one, and the number of bytes before it on the line. -/
structure Place where
  line : Nat
  column : Nat
deriving DecidableEq, Repr

/-- The characters left of a text, and their place. -/
structure Cursor where
  rest : List Char
  place : Place

/-- The place that lies so many bytes after another one; it never passes the end of the text. -/
def Place.after (p : Place) : (bytes : Nat) → List Char → Place
  | 0, _ => p
  | _ + 1, [] => p
  | bytes + 1, c :: rest =>
    if c = '\n' then Place.after ⟨p.line + 1, 0⟩ bytes rest
    else
      let taken := min c.utf8Size (bytes + 1)
      Place.after ⟨p.line, p.column + taken⟩ (bytes + 1 - taken) rest
termination_by _ rest => rest.length

/-- The number of bytes that characters take. -/
def byteLength (cs : List Char) : Nat := cs.foldl (fun n c => n + c.utf8Size) 0

/-- The cursor behind its first character. -/
def Cursor.next (c : Cursor) : Cursor :=
  match c.rest with
  | [] => c
  | d :: rest => ⟨rest, c.place.after d.utf8Size c.rest⟩

/-- The cursor at the beginning of a text. -/
def Cursor.start (text : String) : Cursor := ⟨text.toList, ⟨1, 0⟩⟩

/-- A fault and its place. -/
structure Error where
  fault : Fault
  place : Place
deriving DecidableEq, Repr

/-- The wording of an error. -/
def Error.message (e : Error) : String :=
  e.fault.text ++ " at line " ++ toString e.place.line ++ " column " ++ toString e.place.column

/-- A reading of a text that yields a value or stops with an error. -/
abbrev Scan := StateT Cursor (Except Error)

namespace Scan

variable {α : Type}

/-- Stops at the cursor. -/
def fail (fault : Fault) : Scan α := do throw ⟨fault, (← get).place⟩

/-- Stops at the character in front. -/
def failAhead (fault : Fault) : Scan α := do
  let c ← get
  throw ⟨fault, c.place.after 1 c.rest⟩

/-- The character in front, if there is one. -/
def peek : Scan (Option Char) := return (← get).rest.head?

/-- Passes over the character in front. -/
def skip : Scan Unit := modify Cursor.next

/-- Takes the character in front, if there is one. -/
def next : Scan (Option Char) := do
  let c ← peek
  skip
  return c

/-- Passes over characters as long as a test holds; gives them. -/
def takeWhile (p : Char → Bool) : Scan (List Char) := do
  let c ← get
  let taken := c.rest.takeWhile p
  set (⟨c.rest.drop taken.length, c.place.after (byteLength taken) c.rest⟩ : Cursor)
  return taken

/-- Whether a character is a blank. -/
def isBlank (c : Char) : Bool := c = ' ' || c = '\n' || c = '\t' || c = '\r'

/-- Passes over blanks; gives the character in front then. -/
def blanks : Scan (Option Char) := do
  let _ ← takeWhile isBlank
  peek

/-- Takes the rest of a word. -/
def word (cs : List Char) : Scan Unit :=
  cs.forM fun wanted => do
    match ← next with
    | none => fail .endInValue
    | some c => if c ≠ wanted then fail .expectedWord

/-! ## Strings -/

/-- Takes four hexadecimal digits. -/
def hexEscape : Scan Nat := do
  let c ← get
  let digits := c.rest.take 4
  let size := byteLength c.rest
  if size < 4 then throw ⟨.endInString, c.place.after size c.rest⟩
  if digits.length = 4 && digits.all fun d => (Unicode.hexDigit? d).isSome then
    set (⟨c.rest.drop 4, c.place.after 4 c.rest⟩ : Cursor)
    return Unicode.hexValue digits
  throw ⟨.invalidEscape, c.place.after 4 c.rest⟩

/-- Takes one character of the second half of a surrogate pair's mark. -/
def surrogateMark (wanted : Char) : Scan Unit := do
  match ← peek with
  | none => fail .endInString
  | some c =>
    skip
    if c ≠ wanted then fail .unfinishedSurrogate

/-- The character that a `\u` escape writes, behind its mark. -/
def unicodeEscape : Scan Char := do
  let first ← hexEscape
  if 0xDC00 ≤ first && first ≤ 0xDFFF then fail .loneSurrogate
  if first < 0xD800 || first > 0xDBFF then return Char.ofNat first
  surrogateMark '\\'
  surrogateMark 'u'
  let second ← hexEscape
  if second < 0xDC00 || second > 0xDFFF then fail .loneSurrogate
  return Char.ofNat ((first - 0xD800) * 0x400 + (second - 0xDC00) + 0x10000)

/-- The character that an escape of one letter writes. -/
def simpleEscape? (c : Char) : Option Char :=
  match c with
  | '"' | '\\' | '/' => some c
  | 'b' => some '\x08'
  | 'f' => some '\x0c'
  | 'n' => some '\n'
  | 'r' => some '\r'
  | 't' => some '\t'
  | _ => none

/-- The character that an escape writes, behind its backslash. -/
def escape : Scan Char := do
  match ← next with
  | none => fail .endInString
  | some 'u' => unicodeEscape
  | some c =>
    match simpleEscape? c with
    | some d => return d
    | none => fail .invalidEscape

/-- Passes over an escape, behind its backslash; halves of surrogate pairs may stand alone. -/
def skipEscape : Scan Unit := do
  match ← next with
  | none => fail .endInString
  | some 'u' =>
    let _ ← hexEscape
  | some c => if (simpleEscape? c).isNone then fail .invalidEscape

/-- Whether a character stands for itself in a string. -/
def isPlain (c : Char) : Bool := c ≠ '"' && c ≠ '\\' && c.toNat ≥ 0x20

/-- The rest of a string behind its opening quote, in at most so many pieces. -/
def stringFrom : (pieces : Nat) → List Char → Scan String
  | 0, _ => fail .endInString
  | pieces + 1, before => do
    let text := before ++ (← takeWhile isPlain)
    match ← peek with
    | none => fail .endInString
    | some '"' =>
      skip
      return String.ofList text
    | some '\\' =>
      skip
      stringFrom pieces (text ++ [← escape])
    | some _ =>
      skip
      fail .controlCharacter

/-- The rest of a string behind its opening quote. -/
def string : Scan String := do stringFrom ((← get).rest.length + 1) []

/-- Passes over the rest of a string, in at most so many pieces. -/
def skipStringFrom : (pieces : Nat) → Scan Unit
  | 0 => fail .endInString
  | pieces + 1 => do
    let _ ← takeWhile isPlain
    match ← peek with
    | none => fail .endInString
    | some '"' => skip
    | some '\\' =>
      skip
      skipEscape
      skipStringFrom pieces
    | some _ => fail .controlCharacter

/-- Passes over the rest of a string. -/
def skipString : Scan Unit := do skipStringFrom ((← get).rest.length + 1)

/-! ## Numbers -/

/-- A number as it was written: a natural number, a negative integer, or a fraction. -/
inductive Number where
  | natural (n : Nat)
  | negative (n : Nat)
  | float (x : Double)

/-- How messages describe a number. -/
def Number.described : Number → String
  | natural n => "integer `" ++ toString n ++ "`"
  | negative n => "integer `-" ++ toString n ++ "`"
  | float x => "floating point `" ++ x.text ++ "`"

/-- Ten to a power, as the nearest double. -/
def tenTo (n : Nat) : Double := Double.ofRatio false (Nat.pow 10 n) 1

/-- A significand times ten to a power. Each step of the scaling is rounded; powers beyond the
largest one below the limit of the format are applied in turns. -/
def scale (x : Double) (exponent : Int) : (turns : Nat) → Scan Double
  | 0 => return x
  | turns + 1 =>
    if exponent.natAbs ≤ 308 then
      if exponent ≥ 0 then do
        let y := x.mul (tenTo exponent.natAbs)
        if !y.isFinite then fail .numberTooLarge
        return y
      else return x.div (tenTo exponent.natAbs)
    else if x.mantissa = 0 then return x
    else if exponent ≥ 0 then fail .numberTooLarge
    else scale (x.div (tenTo 308)) (exponent + 308) turns

/-- The double that a sign, a significand and a power of ten write. -/
def floatOf (negative : Bool) (significand : Nat) (exponent : Int) : Scan Double := do
  let x ← scale (Double.ofRatio false significand 1) exponent 10
  return if negative then Double.ofParts true x.bits.toNat else x

/-- Whether a character is a digit. -/
def isDigit (c : Char) : Bool := c.isDigit

/-- The value of a digit. -/
def digitValue (c : Char) : Nat := c.toNat - '0'.toNat

/-- Digits appended to a significand as long as it stays below two to the sixty-fourth; how many
were appended, and those that were not. -/
def appendDigits (significand taken : Nat) : List Char → Nat × Nat × List Char
  | [] => (significand, taken, [])
  | c :: rest =>
    let longer := significand * 10 + digitValue c
    if longer ≥ Nat.pow 2 64 then (significand, taken, c :: rest)
    else appendDigits longer (taken + 1) rest

/-- Whether the exponent of a number comes next. -/
def atExponent : Scan Bool := return (← peek) == some 'e' || (← peek) == some 'E'

/-- The exponent of a number and what it makes of the digits before it. -/
def exponentPart (negative : Bool) (significand : Nat) (start : Int) : Scan Double := do
  skip
  let sign ← peek
  if sign = some '+' || sign = some '-' then skip
  let first ← match ← next with
    | none => fail .endInValue
    | some c => if isDigit c then pure (digitValue c) else fail .invalidNumber
  let rec digits (value : Nat) : Nat → Scan (Option Nat)
    | 0 => return some value
    | n + 1 => do
      match ← peek with
      | some c =>
        if !isDigit c then return some value
        skip
        if value * 10 + digitValue c ≥ Nat.pow 2 31 then return none
        digits (value * 10 + digitValue c) n
      | none => return some value
  match ← digits first ((← get).rest.length + 1) with
  | some value =>
    floatOf negative significand (if sign = some '-' then start - value else start + value)
  | none =>
    if significand ≠ 0 && sign ≠ some '-' then fail .numberTooLarge
    let _ ← takeWhile isDigit
    return Double.ofParts negative 0

/-- The digits behind a point, and what follows them. -/
def fractionPart (negative : Bool) (significand : Nat) (start : Int) : Scan Double := do
  skip
  let digits ← takeWhile isDigit
  if digits.isEmpty then
    if (← peek).isNone then failAhead .endInValue
    failAhead .invalidNumber
  let (significand, taken, _) := appendDigits significand 0 digits
  if ← atExponent then exponentPart negative significand (start - taken)
  else floatOf negative significand (start - taken)

/-- The digits that a number begins with; a zero stands alone. -/
def leadingDigits : Scan (List Char) := do
  match ← peek with
  | none => fail .endInValue
  | some '0' =>
    skip
    if ((← peek).map isDigit).getD false then failAhead .invalidNumber
    return ['0']
  | some c =>
    if isDigit c then takeWhile isDigit
    else
      skip
      fail .invalidNumber

/-- The number that begins with some digits; the rest of it comes next. -/
def numberFrom (negative : Bool) (digits : List Char) : Scan Number := do
  let (significand, _, more) := appendDigits 0 0 digits
  let start : Int := more.length
  if (← peek) = some '.' then return .float (← fractionPart negative significand start)
  if ← atExponent then return .float (← exponentPart negative significand start)
  if !more.isEmpty then return .float (← floatOf negative significand start)
  if !negative then return .natural significand
  if significand = 0 || significand > Nat.pow 2 63 then return .float (← floatOf true significand 0)
  return .negative significand

/-- The number whose digits come next. -/
def number (negative : Bool) : Scan Number := do numberFrom negative (← leadingDigits)

/-- Passes over the digits of a number, whatever its size. -/
def skipNumber : Scan Unit := do
  match ← next with
  | some '0' => if ((← peek).map isDigit).getD false then failAhead .invalidNumber
  | some c => if isDigit c then let _ ← takeWhile isDigit else fail .invalidNumber
  | none => fail .invalidNumber
  if (← peek) = some '.' then
    skip
    if (← takeWhile isDigit).isEmpty then failAhead .invalidNumber
  if ← atExponent then
    skip
    let sign ← peek
    if sign = some '+' || sign = some '-' then skip
    match ← next with
    | some c => if isDigit c then let _ ← takeWhile isDigit else fail .invalidNumber
    | none => fail .invalidNumber

/-! ## Values -/

/-- The lists and objects that are open around a value, the innermost first. -/
inductive Frame where
  | list
  | object
deriving DecidableEq

/-- What passing over a value does next. -/
inductive Skipping where
  /-- A value comes. -/
  | value
  /-- The innermost list or object goes on or ends; a comma may come if it holds something. -/
  | inside (comma : Bool)

/-- Passes over the key of an object and its colon. -/
def skipKey : Scan Unit := do
  match ← blanks with
  | some '"' => skip
  | some _ => failAhead .keyNotString
  | none => failAhead .endInObject
  skipString
  match ← blanks with
  | some ':' => skip
  | some _ => failAhead .expectedColon
  | none => failAhead .endInObject

/-- Passes over a value without a structure of its own, or the beginning of one that has it; the
frames that are open then. -/
def skipStart (frames : List Frame) : Scan (List Frame × Skipping) := do
  match ← blanks with
  | none => failAhead .endInValue
  | some '[' =>
    skip
    return (.list :: frames, .inside false)
  | some '\x7b' =>
    skip
    return (.object :: frames, .inside false)
  | some 'n' => skip; word ['u', 'l', 'l']
  | some 't' => skip; word ['r', 'u', 'e']
  | some 'f' => skip; word ['a', 'l', 's', 'e']
  | some '"' => skip; skipString
  | some '-' => skip; skipNumber
  | some c => if isDigit c then skipNumber else failAhead .expectedValue
  return (frames, .inside true)

/-- One step inside the innermost list or object. -/
def skipInside (frame : Frame) (outer : List Frame) (comma : Bool) :
    Scan (List Frame × Skipping) := do
  let entry : Scan (List Frame × Skipping) := do
    if frame = .object then skipKey
    return (frame :: outer, .value)
  match ← blanks, frame, comma with
  | some ',', _, true =>
    skip
    entry
  | some ']', .list, _ =>
    skip
    return (outer, .inside true)
  | some '\x7d', .object, _ =>
    skip
    return (outer, .inside true)
  | some _, .list, true => failAhead .expectedListEnd
  | some _, .object, true => failAhead .expectedObjectEnd
  | some _, _, false => entry
  | none, .list, _ => failAhead .endInList
  | none, .object, _ => failAhead .endInObject

/-- Passes over a value in at most so many steps. -/
def skipFrom : (steps : Nat) → List Frame → Skipping → Scan Unit
  | 0, _, _ => fail .endInValue
  | _ + 1, [], .inside _ => return ()
  | steps + 1, frames, .value => do
    let (frames, then_) ← skipStart frames
    skipFrom steps frames then_
  | steps + 1, frame :: outer, .inside comma => do
    let (frames, then_) ← skipInside frame outer comma
    skipFrom steps frames then_

/-- Passes over a value. -/
def skipValue : Scan Unit := do skipFrom (2 * (← get).rest.length + 2) [] .value

/-- Stops because the value in front is of another type than the wanted one. -/
def refuse (wanted : String) : Scan α := do
  let found (text : String) : Scan α := fail (.wrongType text wanted)
  match ← peek with
  | some 'n' => skip; word ['u', 'l', 'l']; found "null"
  | some 't' => skip; word ['r', 'u', 'e']; found "boolean `true`"
  | some 'f' => skip; word ['a', 'l', 's', 'e']; found "boolean `false`"
  | some '-' => skip; found (← number true).described
  | some '"' => skip; found ("string " ++ Text.display (← string))
  | some '[' => found "sequence"
  | some '\x7b' => found "map"
  | some c => if isDigit c then found (← number false).described else failAhead .expectedValue
  | none => failAhead .expectedValue

end Scan

end DeclSynth.Json
