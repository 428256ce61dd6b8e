/-!
# Places in a source text

A `Position` counts lines from one and columns from zero, in characters; only a line
feed starts a new line. A `Span` is either a stretch of the source or the call site,
which stands for what was written nowhere. It is a place and does not tell how a name
there is resolved.
-/

namespace DeclSynth

/-- A place between two characters of a source text. -/
structure Position where
  line : Nat
  column : Nat
deriving DecidableEq, Repr, Inhabited

namespace Position

/-- The start of a text. -/
def start : Position := ⟨1, 0⟩

/-- The position after one more character. -/
def next (p : Position) (c : Char) : Position :=
  if c = '\n' then ⟨p.line + 1, 0⟩ else ⟨p.line, p.column + 1⟩

/-- The position after some more characters. -/
def advance (p : Position) (cs : List Char) : Position := cs.foldl next p

end Position

/-- Where a token or a tree comes from. -/
inductive Span where
  /-- Written by the expansion itself. -/
  | callSite
  /-- From `start` to `stop` in the source, `stop` excluded. -/
  | source (start stop : Position)
deriving DecidableEq, Repr, Inhabited

namespace Span

/-- The place of a name that the expansion makes up and keeps to itself. The compiler lets no name
of the source refer to it, and points to the call site for it; as a place it is the call site. -/
def mixedSite : Span := .callSite

/-- The span from the start of one to the end of another; the first alone if either is
the call site. -/
def join : Span → Span → Span
  | .source start _, .source _ stop => .source start stop
  | first, _ => first

/-- The first character of a span. -/
def opening : Span → Span
  | .callSite => .callSite
  | .source start _ => .source start ⟨start.line, start.column + 1⟩

/-- The last character of a span. -/
def closing : Span → Span
  | .callSite => .callSite
  | .source _ stop => .source ⟨stop.line, stop.column - 1⟩ stop

end Span

end DeclSynth
