import DeclSynth.Unicode.Case

/-!
# Punycode

A label outside ASCII as a string of ASCII letters and digits: first its ASCII
characters, then, after a hyphen, a number for each of the others. The others are taken
in increasing order, and a number says how many states of (character, place) lie between
one insertion and the next. Numbers are written in base 36 with variable length, where
the bounds of the digits adapt to the numbers before.
-/

namespace DeclSynth.Url.Punycode

open Unicode (isAscii)

/-- The letter or decimal digit for a digit of base 36. -/
def digitChar (d : Nat) : Char :=
  if d < 26 then Char.ofNat ('a'.toNat + d) else Char.ofNat ('0'.toNat + (d - 26))

/-- The digit of base 36 that a character writes. -/
def digitValue? (c : Char) : Option Nat :=
  if 'a' ≤ c ∧ c ≤ 'z' then some (c.toNat - 'a'.toNat)
  else if '0' ≤ c ∧ c ≤ '9' then some (c.toNat - '0'.toNat + 26)
  else none

/-- The bound of the digit at a position, which goes up by 36 from digit to digit: a smaller digit
ends the number. -/
def threshold (position bias : Nat) : Nat := max 1 (min 26 (position - bias))

theorem one_le_threshold (position bias : Nat) : 1 ≤ threshold position bias := by
  unfold threshold; omega

/-- Divides by 35 until at most 455 is left, counting 36 for each division. -/
def scaleDown (delta : Nat) : Nat × Nat :=
  if 455 < delta then
    let (rest, counted) := scaleDown (delta / 35)
    (rest, counted + 36)
  else (delta, 0)
termination_by delta
decreasing_by omega

/-- The bias after a number, given how many characters stand by then and whether it was the first
number. -/
def adapt (delta count : Nat) (first : Bool) : Nat :=
  let halved := if first then delta / 700 else delta / 2
  let (rest, counted) := scaleDown (halved + halved / count)
  counted + 36 * rest / (rest + 38)

/-- Writes a number from the digit at a position on. -/
def writeNumber (bias position q : Nat) : List Char :=
  let t := threshold position bias
  if q < t then [digitChar q]
  else
    digitChar (t + (q - t) % (36 - t)) :: writeNumber bias (position + 36) ((q - t) / (36 - t))
termination_by q
decreasing_by
  have h1 := one_le_threshold position bias
  have h2 := Nat.div_le_self (q - threshold position bias) (36 - threshold position bias)
  omega

/-- The state of writing: the numbers so far, what has been counted since the last of them, the
bias, how many characters have been placed, and the least code point yet to come. -/
structure Encoder where
  written : List Char
  delta : Nat
  bias : Nat
  placed : Nat
  next : Nat

/-- Passes one character of the label while those with the code point `n` are placed: a lower one
is counted, and one with the code point itself is written. -/
def Encoder.pass (basic n : Nat) (e : Encoder) (c : Char) : Encoder :=
  if c.toNat < n then { e with delta := e.delta + 1 }
  else if c.toNat = n then
    { e with
      written := e.written ++ writeNumber e.bias 36 e.delta
      delta := 0
      bias := adapt e.delta (e.placed + 1) (e.placed == basic)
      placed := e.placed + 1 }
  else e

/-- Places the characters with one code point. -/
def Encoder.place (cs : List Char) (basic : Nat) (e : Encoder) (n : Nat) : Encoder :=
  let counted := { e with delta := e.delta + (n - e.next) * (e.placed + 1) }
  let passed := cs.foldl (Encoder.pass basic n) counted
  { passed with delta := passed.delta + 1, next := n + 1 }

/-- The form of a label in ASCII. -/
def encode (cs : List Char) : List Char :=
  let basic := cs.filter isAscii
  let others := ((cs.filter (!isAscii ·)).map Char.toNat).mergeSort.eraseDups
  let start : Encoder := ⟨[], 0, 72, basic.length, 128⟩
  let result := others.foldl (Encoder.place cs basic.length) start
  basic ++ (if basic = [] then [] else ['-']) ++ result.written

/-- The state of reading: the text so far, the last code point inserted, the bias, where the
current number started to count and how far it has, and the weight and the position of its next
digit. -/
structure Decoder where
  text : List Char
  code : Nat
  bias : Nat
  start : Nat
  index : Nat
  weight : Nat
  position : Nat

/-- The largest number that reading keeps. -/
def limit : Nat := Nat.pow 2 32 - 1

/-- The character with a code point, if it is one. -/
def charOf? (n : Nat) : Option Char := if n.isValidChar then some (Char.ofNat n) else none

/-- Inserts the character that a complete number stands for. -/
def Decoder.insert (d : Decoder) (index : Nat) : Option Decoder := do
  let count := d.text.length + 1
  let code := d.code + index / count
  let place := index % count
  let c ← charOf? code
  some
    { text := d.text.take place ++ c :: d.text.drop place
      code := code
      bias := adapt (index - d.start) count (d.start == 0)
      start := place + 1
      index := place + 1
      weight := 1
      position := 36 }

/-- Reads one digit. -/
def Decoder.step (d : Decoder) (c : Char) : Option Decoder := do
  let digit ← digitValue? c
  let index := d.index + digit * d.weight
  let t := threshold d.position d.bias
  if limit < index then none
  else if digit < t then d.insert index
  else
    let weight := d.weight * (36 - t)
    if limit < weight then none
    else some { d with index := index, weight := weight, position := d.position + 36 }

/-- The text before the last hyphen and the text after it; all is after it if there is none, or if
nothing is before it. -/
def splitBasic (cs : List Char) : List Char × List Char :=
  let after := (cs.reverse.takeWhile (· ≠ '-')).reverse
  let before := cs.take (cs.length - after.length)
  match before.dropLast with
  | [] => ([], cs)
  | basic => (basic, after)

/-- The label that a form in ASCII stands for. The last number has to be complete. -/
def decode? (cs : List Char) : Option (List Char) := do
  let (basic, numbers) := splitBasic cs
  let d ← numbers.foldlM Decoder.step ⟨basic, 128, 72, 0, 0, 1, 36⟩
  if d.position = 36 then some d.text else none

end DeclSynth.Url.Punycode
