import DeclSynth.Unicode.Case
import DeclSynth.Unicode.NormalizeData

/-!
# The composed normal form

`normalize` brings a text into its composed normal form (NFC): every character is taken
apart, the marks after a letter are put into the order of their combining classes, and
what composes is put together again. The syllables of Hangul are handled by arithmetic.
-/

namespace DeclSynth.Unicode

/-- The mapping that `decompositionText` lists. -/
def decompositionMap : RangeMap := .ofText decompositionText

/-- The mapping of pairs that `compositionText` lists. -/
def compositionMap : RangeMap := .ofText compositionText

/-- The classes that `combiningClassText` lists. -/
def combiningClassMap : RangeMap := .ofText combiningClassText

/-- The set that `markText` lists. -/
def markSet : RangeSet := .ofText markText

/-- The canonical combining class of a character. -/
def combiningClass (c : Char) : Nat := (combiningClassMap.label? c.toNat).getD 0

/-- Whether a character is a combining mark. -/
def isMark (c : Char) : Bool := markSet.contains c.toNat

/-- Whether a character is a virama, which joins the consonants around it. -/
def isVirama (c : Char) : Bool := combiningClass c == 9

namespace Hangul

/-- The first syllable. -/
def syllables : Nat := 0xAC00

/-- The first leading consonant. -/
def leads : Nat := 0x1100

/-- The first vowel. -/
def vowels : Nat := 0x1161

/-- The place before the first trailing consonant, which stands for none. -/
def trails : Nat := 0x11A7

/-- Takes a syllable apart into its two or three letters. -/
def decompose? (n : Nat) : Option (List Nat) :=
  if syllables ≤ n ∧ n < syllables + 19 * 21 * 28 then
    let index := n - syllables
    let pair := [leads + index / (21 * 28), vowels + index % (21 * 28) / 28]
    some (if index % 28 = 0 then pair else pair ++ [trails + index % 28])
  else none

/-- Puts a leading consonant and a vowel together, or such a pair and a trailing consonant. -/
def compose? (first second : Nat) : Option Nat :=
  if leads ≤ first ∧ first < leads + 19 ∧ vowels ≤ second ∧ second < vowels + 21 then
    some (syllables + ((first - leads) * 21 + (second - vowels)) * 28)
  else if syllables ≤ first ∧ first < syllables + 19 * 21 * 28 ∧ (first - syllables) % 28 = 0 ∧
      trails < second ∧ second < trails + 28 then
    some (first + (second - trails))
  else none

end Hangul

/-- The full canonical decomposition of a character. -/
def decompose (c : Char) : List Char :=
  if isAscii c then [c]
  else match Hangul.decompose? c.toNat <|> decompositionMap.find? c.toNat with
    | some image => image.map Char.ofNat
    | none => [c]

/-- The composite of two characters, if they have one. -/
def compose? (first second : Char) : Option Char :=
  (Hangul.compose? first.toNat second.toNat <|>
    ((compositionMap.find? (first.toNat * 0x1000000 + second.toNat)).bind List.head?)).map
      Char.ofNat

/-- Puts a character before a text whose marks are in order, past the leading marks of a lower
class. -/
def insertMark (c : Char) : List Char → List Char
  | [] => [c]
  | d :: rest =>
    if combiningClass d ≠ 0 ∧ combiningClass d < combiningClass c then d :: insertMark c rest
    else c :: d :: rest

/-- Puts the marks after each letter into the order of their classes; equal classes keep their
order. -/
def orderMarks (cs : List Char) : List Char := cs.foldr insertMark []

/-- Composes what follows a letter with it, given the marks between that did not compose, the last
one first. A mark of the same or a higher class in between bars a character from the letter. -/
def composeAfter (letter : Char) (marks : List Char) : List Char → List Char
  | [] => letter :: marks.reverse
  | c :: rest =>
    let barred := match marks with
      | [] => false
      | m :: _ => combiningClass c ≤ combiningClass m
    match if barred then none else compose? letter c with
    | some composite => composeAfter composite marks rest
    | none =>
      if combiningClass c = 0 then (letter :: marks.reverse) ++ composeAfter c [] rest
      else composeAfter letter (c :: marks) rest

/-- Composes a text whose characters are taken apart and whose marks are in order. -/
def compose : List Char → List Char
  | [] => []
  | c :: rest => if combiningClass c = 0 then composeAfter c [] rest else c :: compose rest

/-- The composed normal form of a text. -/
def normalize (cs : List Char) : List Char := compose (orderMarks (cs.flatMap decompose))

end DeclSynth.Unicode
