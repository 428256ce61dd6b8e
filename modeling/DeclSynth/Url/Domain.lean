import DeclSynth.Unicode.Bidi
import DeclSynth.Unicode.Joining
import DeclSynth.Unicode.Normalize
import DeclSynth.Url.DomainData
import DeclSynth.Url.Punycode

/-!
# Domain names

A domain name outside ASCII is brought into its ASCII form: its characters are mapped,
the text is normalized and cut at its dots, every label is checked, and a label outside
ASCII is encoded. A label that is already encoded has to be the encoding of a label that
mapping and normalizing leave alone. `toAscii?` is the whole of it; what it gives may
still be an address.
-/

namespace DeclSynth.Url.Domain

open Unicode (isAscii splitWhere RangeSet RangeMap BidiClass bidiClass JoiningType joiningType)

/-- The set that `validText` lists. -/
def validSet : RangeSet := .ofText validText

/-- The mapping that `mappingText` lists. -/
def mapping : RangeMap := .ofText mappingText

/-- What a character of a domain name stands for; nothing if it is disallowed. -/
def mapChar? (c : Char) : Option (List Char) :=
  if isAscii c then some [c.toLower]
  else if validSet.contains c.toNat then some [c]
  else (mapping.find? c.toNat).map (·.map Char.ofNat)

/-- Maps the characters of a text and normalizes it. -/
def prepare? (cs : List Char) : Option (List Char) :=
  (cs.mapM mapChar?).map fun images => Unicode.normalize images.flatten

/-- Whether an ASCII character is barred from domain names: blanks, controls, and the marks that
have a meaning in a URL. -/
def isForbidden (c : Char) : Bool :=
  c.toNat ≤ 0x20 || c.toNat == 0x7F ||
    c ∈ ['%', '#', '/', ':', '<', '>', '?', '@', '[', '\\', ']', '^', '|']

/-- A label as it is read, and as it is written in ASCII. -/
structure Label where
  shown : List Char
  written : List Char
deriving DecidableEq, Repr

/-- What an encoded label starts with. -/
def encodedMark : List Char := ['x', 'n', '-', '-']

/-- The length from which on a label is not encoded. -/
def encodeLimit : Nat := 1000

/-- The length from which on an encoded label is not decoded. -/
def decodeLimit : Nat := 2000

/-- Whether the letters around a non-joiner are ones that it keeps from joining, given what is
before it, nearest first, and what follows. -/
def partsJoined (before after : List Char) : Bool :=
  let next (cs : List Char) := (cs.map joiningType).dropWhile (· == .transparent)
  (match next before with
    | .left :: _ | .dual :: _ => true
    | _ => false) &&
  match next after with
    | .right :: _ | .dual :: _ => true
    | _ => false

/-- Whether every joiner of a label stands after a virama, or, if it is a non-joiner, between
letters that would be joined. The characters before come first, nearest first. -/
def joinersAllowed : List Char → List Char → Bool
  | _, [] => true
  | before, c :: rest =>
    let afterVirama := (before.head?.map Unicode.isVirama).getD false
    (match c.toNat with
      | 0x200C => afterVirama || partsJoined before rest
      | 0x200D => afterVirama
      | _ => true) &&
    joinersAllowed (c :: before) rest

/-- Whether a label outside ASCII is in order: it does not start with a mark, and its joiners are
where they have an effect. -/
def isOrderly (cs : List Char) : Bool :=
  !((cs.head?.map Unicode.isMark).getD false) && joinersAllowed [] cs

/-- Reads a label of a prepared text. -/
def Label.read? (cs : List Char) : Option Label :=
  if cs.any isForbidden then none
  else if encodedMark.isPrefixOf cs then do
    let digits := cs.drop encodedMark.length
    let shown ← if cs.all isAscii && digits.length ≤ decodeLimit then Punycode.decode? digits
      else none
    if !shown.all isAscii && prepare? shown = some shown && isOrderly shown then some ⟨shown, cs⟩
    else none
  else if cs.all isAscii then some ⟨cs, cs⟩
  else if isOrderly cs && cs.length ≤ encodeLimit then
    some ⟨cs, encodedMark ++ Punycode.encode cs⟩
  else none

/-- Whether a character makes its domain name one with a direction to check. -/
def isRightToLeft (c : Char) : Bool :=
  bidiClass c ∈ [BidiClass.right, .arabicLetter, .arabicNumber]

/-- The classes that may stand in a label of either direction. -/
def sharedClasses : List BidiClass :=
  [.europeanNumber, .europeanSeparator, .commonSeparator, .europeanTerminator, .otherNeutral,
    .boundaryNeutral, .nonspacingMark]

/-- Whether the classes of a label, marks at its end left out, make a label from left to right. -/
def runsRight (classes trimmed : List BidiClass) : Bool :=
  classes.all (fun k => k == .left || sharedClasses.contains k) &&
    match trimmed.getLast? with
    | some .left | some .europeanNumber => true
    | _ => false

/-- Whether the classes of a label, marks at its end left out, make a label from right to left: its
numbers are of one kind. -/
def runsLeft (classes trimmed : List BidiClass) : Bool :=
  classes.all (fun k =>
    k ∈ [BidiClass.right, .arabicLetter, .arabicNumber] || sharedClasses.contains k) &&
  !(classes.contains .europeanNumber && classes.contains .arabicNumber) &&
    match trimmed.getLast? with
    | some .right | some .arabicLetter | some .europeanNumber | some .arabicNumber => true
    | _ => false

/-- Whether a label has one direction, the one its first character sets. -/
def hasDirection (cs : List Char) : Bool :=
  let classes := cs.map bidiClass
  let trimmed := (classes.reverse.dropWhile (· == .nonspacingMark)).reverse
  match classes with
  | [] => true
  | .left :: _ => runsRight classes trimmed
  | .right :: _ | .arabicLetter :: _ => runsLeft classes trimmed
  | _ => false

/-- The labels of a domain name. -/
def labels? (cs : List Char) : Option (List Label) := do
  let prepared ← prepare? cs
  let labels ← (splitWhere (· == '.') prepared).mapM Label.read?
  if labels.any (·.shown.any isRightToLeft) && !labels.all (hasDirection ·.shown) then none
  else some labels

/-- The ASCII form of a domain name. -/
def toAscii? (cs : List Char) : Option (List Char) :=
  (labels? cs).map fun labels => ['.'].intercalate (labels.map Label.written)

end DeclSynth.Url.Domain
