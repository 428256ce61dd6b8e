import DeclSynth.Unicode.Table
import DeclSynth.Unicode.BidiData

/-!
# Direction

The bidirectional class of a character, as far as the direction of a label depends on it:
separators, white space and explicit formatting are one class here.
-/

namespace DeclSynth.Unicode

/-- The bidirectional classes, with the separators, white space and the explicit formatting
characters taken together. -/
inductive BidiClass where
  | left
  | right
  | arabicLetter
  | arabicNumber
  | europeanNumber
  | europeanSeparator
  | europeanTerminator
  | commonSeparator
  | nonspacingMark
  | boundaryNeutral
  | otherNeutral
  | formatting
deriving DecidableEq, Repr

/-- The sets of the classes other than `left`. -/
def bidiSets : List (BidiClass × RangeSet) :=
  [(.right, .ofText rightToLeftText), (.arabicLetter, .ofText arabicLetterText),
    (.arabicNumber, .ofText arabicNumberText), (.europeanNumber, .ofText europeanNumberText),
    (.europeanSeparator, .ofText europeanSeparatorText),
    (.europeanTerminator, .ofText europeanTerminatorText),
    (.commonSeparator, .ofText commonSeparatorText),
    (.nonspacingMark, .ofText nonspacingMarkText),
    (.boundaryNeutral, .ofText boundaryNeutralText), (.otherNeutral, .ofText otherNeutralText),
    (.formatting, .ofText formattingText)]

/-- The bidirectional class of a character. -/
def bidiClass (c : Char) : BidiClass :=
  match bidiSets.find? (fun entry => entry.2.contains c.toNat) with
  | some (k, _) => k
  | none => .left

end DeclSynth.Unicode
