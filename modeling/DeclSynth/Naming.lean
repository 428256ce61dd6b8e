import DeclSynth.Unicode.Case

/-!
# Names

Names are read as sequences of words. `words` cuts a name at its underscores and where
a capital starts a new word; everything else here is said in terms of that list: the
two case conversions, the words that a name does not share with the end of another,
and the names that expanders derive from the names they are given.
-/

namespace DeclSynth.Naming

open Unicode

/-- Whether a word starts at `c`, between the character before it and the one after it:
`c` is a capital that follows a small letter or a digit, or that ends a run of capitals
because a small letter comes next. -/
def startsWord (previous c : Char) (next : Option Char) : Bool :=
  isUppercase c &&
    (isLowercase previous || previous.isDigit ||
      (isUppercase previous && (next.map isLowercase).getD false))

/-- The words of the characters that remain, given the current word read so far, last
character first. -/
def wordsFrom : List Char → List Char → List (List Char)
  | [], [] => []
  | current@(_ :: _), [] => [current.reverse]
  | [], c :: rest => if c = '_' then wordsFrom [] rest else wordsFrom [c] rest
  | previous :: earlier, c :: rest =>
    if c = '_' then (previous :: earlier).reverse :: wordsFrom [] rest
    else if startsWord previous c rest.head? then
      (previous :: earlier).reverse :: wordsFrom [c] rest
    else wordsFrom (c :: previous :: earlier) rest

/-- The words of a name, in order. Underscores separate words, digits stay with the word
before them, and a run of capitals is one word up to the capital that a small letter follows. -/
def words (name : String) : List String :=
  (wordsFrom [] name.toList).map String.ofList

/-- The length of the longest common prefix of two lists. -/
def sharedPrefixLength {α : Type} [DecidableEq α] : List α → List α → Nat
  | x :: xs, y :: ys => if x = y then sharedPrefixLength xs ys + 1 else 0
  | _, _ => 0

/-- The number of words that two names have in common at their ends. -/
def sharedSuffixLength (child parent : String) : Nat :=
  sharedPrefixLength (words child).reverse (words parent).reverse

/-- The words of `child` before the ones it shares with the end of `parent`. -/
def suffixRemainder (child parent : String) : List String :=
  (words child).take ((words child).length - sharedSuffixLength child parent)

/-- A text with its first character in upper case. -/
def capitalize (text : String) : String :=
  match text.toList with
  | [] => ""
  | c :: rest => String.ofList (toUpper c ++ rest)

/-- The lower case of a text. -/
def lowercase (text : String) : String := String.ofList (Unicode.lowercase text.toList)

/-- The words of a name in lower case, joined by underscores. -/
def toSnakeCase (name : String) : String :=
  "_".intercalate ((words name).map lowercase)

/-- The words of a name, each with a capital, run together. -/
def toUpperCamelCase (name : String) : String :=
  String.join ((words name).map capitalize)

/-- What a role's own names start with: the words it does not share with the end of the
base, or the whole role if it shares them all. -/
def roleStem (role base : String) : String :=
  match suffixRemainder role base with
  | [] => role
  | stem => String.join stem

/-- The name of the discriminator of a role. -/
def discriminatorName (role base suffix : String) : String := roleStem role base ++ suffix

/-- The name of the classifier method for a stem. -/
def classifierName (stem : String) : String := toSnakeCase stem ++ "_type"

/-- The name of the predicate for an enum case. -/
def casePredicateName (case : String) : String := "is_" ++ toSnakeCase case

end DeclSynth.Naming
