import DeclSynth.Unicode.Table
import DeclSynth.Unicode.JoiningData

/-!
# Cursive joining

On which sides a letter joins its neighbours in a script written in joined hand.
-/

namespace DeclSynth.Unicode

/-- On which sides a character joins its neighbours. -/
inductive JoiningType where
  | left
  | right
  | dual
  | transparent
  | none
deriving DecidableEq, Repr

/-- The sets of the joining types other than `none`. -/
def joiningSets : List (JoiningType × RangeSet) :=
  [(.left, .ofText leftJoiningText), (.right, .ofText rightJoiningText),
    (.dual, .ofText dualJoiningText), (.transparent, .ofText transparentText)]

/-- The joining type of a character. -/
def joiningType (c : Char) : JoiningType :=
  match joiningSets.find? (fun entry => entry.2.contains c.toNat) with
  | some (k, _) => k
  | none => .none

end DeclSynth.Unicode
