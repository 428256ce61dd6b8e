import DeclSynth.Unicode.Case
import DeclSynth.Unicode.IdentifierData

/-!
# Identifier characters

Which characters may start an identifier and which may continue one. The underscore
starts an identifier here, as it does in the language whose tokens are read.
-/

namespace DeclSynth.Unicode

/-- The set that `identifierStartText` lists. -/
def identifierStartSet : RangeSet := .ofText identifierStartText

/-- The set that `identifierContinueText` lists. -/
def identifierContinueSet : RangeSet := .ofText identifierContinueText

/-- Whether a character may start an identifier. -/
def isIdentifierStart (c : Char) : Bool :=
  if isAscii c then c == '_' || ('a' ≤ c && c ≤ 'z') || ('A' ≤ c && c ≤ 'Z')
  else identifierStartSet.contains c.toNat

/-- Whether a character may continue an identifier: one that may start it, a digit, or another of
the characters listed for that. -/
def isIdentifierContinue (c : Char) : Bool :=
  isIdentifierStart c || c.isDigit || (!isAscii c && identifierContinueSet.contains c.toNat)

/-- Whether the characters form an identifier word: a start, then continuations. -/
def isWord : List Char → Bool
  | [] => false
  | c :: rest => isIdentifierStart c && rest.all isIdentifierContinue

theorem isIdentifierContinue_of_isIdentifierStart {c : Char} (h : isIdentifierStart c = true) :
    isIdentifierContinue c = true := by
  simp [isIdentifierContinue, h]

theorem isIdentifierContinue_of_isDigit {c : Char} (h : c.isDigit = true) :
    isIdentifierContinue c = true := by
  simp [isIdentifierContinue, h]

/-- Every character of a word may continue one. -/
theorem all_isIdentifierContinue_of_isWord {cs : List Char} (h : isWord cs = true) :
    cs.all isIdentifierContinue = true := by
  cases cs with
  | nil => rfl
  | cons c rest =>
    simp only [isWord, Bool.and_eq_true] at h
    rw [List.all_cons, isIdentifierContinue_of_isIdentifierStart h.1, h.2]
    rfl

/-- A word may be continued. -/
theorem isWord_append {word rest : List Char} (h : isWord word = true)
    (hr : rest.all isIdentifierContinue = true) : isWord (word ++ rest) = true := by
  cases word with
  | nil => simp [isWord] at h
  | cons c tail =>
    simp only [isWord, Bool.and_eq_true] at h
    rw [List.cons_append, isWord, h.1, List.all_append, h.2, hr]
    rfl

end DeclSynth.Unicode
