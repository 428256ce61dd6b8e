/-!
# Blanks

The characters of the property White_Space, and the wider set that the token reader
passes over, which adds the two implicit direction marks.
-/

namespace DeclSynth.Unicode

/-- Whether a character has the property White_Space. -/
def isWhiteSpace (c : Char) : Bool :=
  let n := c.toNat
  (9 ≤ n && n ≤ 13) || n == 0x20 || n == 0x85 || n == 0xA0 || n == 0x1680 ||
    (0x2000 ≤ n && n ≤ 0x200A) || n == 0x2028 || n == 0x2029 || n == 0x202F || n == 0x205F ||
    n == 0x3000

/-- Whether a character separates tokens: white space, or a left-to-right or right-to-left mark. -/
def isBlank (c : Char) : Bool :=
  isWhiteSpace c || c.toNat == 0x200E || c.toNat == 0x200F

end DeclSynth.Unicode
