import DeclSynth.Unicode.Case

/-!
# Percent escapes

A character that a part of a URL may not hold is written as its bytes in UTF-8, each as
a percent sign and two digits. Every part has its own set of such ASCII characters; what
lies above ASCII is escaped in all of them. A percent sign is never escaped, so a text
that holds escapes keeps them.
-/

namespace DeclSynth.Url

open Unicode (isAscii hexDigit?)

/-- The characters escaped everywhere: controls, and all above ASCII. -/
def isControl (c : Char) : Bool := c.toNat < 0x20 || 0x7F ≤ c.toNat

/-- The characters escaped in a fragment. -/
def escapedInFragment (c : Char) : Bool :=
  isControl c || c ∈ [' ', '"', '<', '>', '\x60']

/-- The characters escaped in a path that has segments. -/
def escapedInPath (c : Char) : Bool :=
  escapedInFragment c || c ∈ ['#', '?', '\x7b', '\x7d']

/-- The characters escaped in a user name or a password. -/
def escapedInCredentials (c : Char) : Bool :=
  escapedInPath c || c ∈ ['/', ':', ';', '=', '@', '[', '\\', ']', '^', '|']

/-- The characters escaped in a query. -/
def escapedInQuery (c : Char) : Bool :=
  isControl c || c ∈ [' ', '"', '#', '<', '>']

/-- The characters escaped in a query of a special scheme: the apostrophe too. -/
def escapedInSpecialQuery (c : Char) : Bool :=
  escapedInQuery c || c == '\''

/-- One hexadecimal digit, in upper case. -/
def upperHexDigit (n : Nat) : Char :=
  if n < 10 then Char.ofNat ('0'.toNat + n) else Char.ofNat ('A'.toNat + (n - 10))

/-- A byte as a percent sign and two digits. -/
def escapeByte (b : UInt8) : List Char :=
  ['%', upperHexDigit (b.toNat / 16), upperHexDigit (b.toNat % 16)]

/-- A text with the characters of a set escaped. -/
def escape (escaped : Char → Bool) (cs : List Char) : List Char :=
  cs.flatMap fun c =>
    if escaped c then (String.utf8EncodeChar c).flatMap escapeByte else [c]

/-- The bytes of a text with its escapes undone. A percent sign that two digits do not follow
stands for itself. -/
def unescape : List Char → List UInt8
  | '%' :: a :: b :: rest =>
    match hexDigit? a, hexDigit? b with
    | some high, some low => UInt8.ofNat (high * 16 + low) :: unescape rest
    | _, _ => '%'.toNat.toUInt8 :: unescape (a :: b :: rest)
  | c :: rest => String.utf8EncodeChar c ++ unescape rest
  | [] => []

/-- The text that bytes spell in UTF-8, if they do. -/
def decodeBytes? (bytes : List UInt8) : Option (List Char) :=
  (String.fromUTF8? ⟨bytes.toArray⟩).map String.toList

end DeclSynth.Url
