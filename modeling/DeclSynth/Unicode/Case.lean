import DeclSynth.Unicode.Table
import DeclSynth.Unicode.CaseData

/-!
# Letter case

The case properties and the full case mappings of characters. ASCII is decided by
arithmetic and only what lies above it by the tables. `lowercase` maps a whole text:
a capital sigma that ends a word becomes the final small sigma.
-/

namespace DeclSynth.Unicode

/-- The set that `uppercaseText` lists. -/
def uppercaseSet : RangeSet := .ofText uppercaseText

/-- The set that `lowercaseText` lists. -/
def lowercaseSet : RangeSet := .ofText lowercaseText

/-- The set that `casedText` lists. -/
def casedSet : RangeSet := .ofText casedText

/-- The set that `caseIgnorableText` lists. -/
def caseIgnorableSet : RangeSet := .ofText caseIgnorableText

/-- The mapping that `toLowerText` lists. -/
def toLowerMap : RangeMap := .ofText toLowerText

/-- The mapping that `toUpperText` lists. -/
def toUpperMap : RangeMap := .ofText toUpperText

/-- Whether a character is ASCII. -/
def isAscii (c : Char) : Bool := c.toNat < 128

/-- Whether a character has the property Uppercase. -/
def isUppercase (c : Char) : Bool :=
  if isAscii c then 'A' ≤ c && c ≤ 'Z' else uppercaseSet.contains c.toNat

/-- Whether a character has the property Lowercase. -/
def isLowercase (c : Char) : Bool :=
  if isAscii c then 'a' ≤ c && c ≤ 'z' else lowercaseSet.contains c.toNat

/-- Whether a character has a case, titlecase included. -/
def isCased (c : Char) : Bool :=
  if isAscii c then ('a' ≤ c && c ≤ 'z') || ('A' ≤ c && c ≤ 'Z') else casedSet.contains c.toNat

/-- Whether a character is passed over when the case of its neighbours is looked at. -/
def isCaseIgnorable (c : Char) : Bool := caseIgnorableSet.contains c.toNat

/-- The full lower-case mapping of one character, outside any context. -/
def toLower (c : Char) : List Char :=
  if isAscii c then [c.toLower]
  else match toLowerMap.find? c.toNat with
    | some image => image.map Char.ofNat
    | none => [c]

/-- The full upper-case mapping of one character. -/
def toUpper (c : Char) : List Char :=
  if isAscii c then [c.toUpper]
  else match toUpperMap.find? c.toNat with
    | some image => image.map Char.ofNat
    | none => [c]

/-- Whether the first character that counts for case is a cased one. -/
def casedAfterIgnorable (cs : List Char) : Bool :=
  match cs.dropWhile isCaseIgnorable with
  | [] => false
  | c :: _ => isCased c

/-- The lower case of a text, given the characters before it, nearest first. -/
def lowercaseAfter : List Char → List Char → List Char
  | _, [] => []
  | before, c :: rest =>
    let image :=
      if c = 'Σ' then
        if casedAfterIgnorable before && !casedAfterIgnorable rest then ['ς'] else ['σ']
      else toLower c
    image ++ lowercaseAfter (c :: before) rest

/-- The lower case of a text. -/
def lowercase (cs : List Char) : List Char := lowercaseAfter [] cs

end DeclSynth.Unicode
