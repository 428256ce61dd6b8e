import DeclSynth.Unicode.Case
import DeclSynth.Unicode.PrintData

/-!
# Printing characters

Which characters print as themselves inside a quoted text: neither controls, formats
and other invisible ones, nor marks that would join the character before them.
-/

namespace DeclSynth.Unicode

/-- The set that `unprintableText` lists. -/
def unprintableSet : RangeSet := .ofText unprintableText

/-- The set that `graphemeExtendText` lists. -/
def graphemeExtendSet : RangeSet := .ofText graphemeExtendText

/-- Whether a character may stand in a quoted text as it is. -/
def isPrintable (c : Char) : Bool :=
  if isAscii c then 0x20 ≤ c.toNat && c.toNat < 0x7F
  else !graphemeExtendSet.contains c.toNat && !unprintableSet.contains c.toNat

end DeclSynth.Unicode
