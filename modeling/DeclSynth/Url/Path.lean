import DeclSynth.Unicode.Table
import DeclSynth.Url.Escape

/-!
# Paths

A path is cut at its slashes into segments. A segment of one dot is left out and one of
two dots takes the segment before it along, where a dot may be escaped. A segment that
looks like a drive letter is never taken along, and at the start of a file path it is
written with a colon.
-/

namespace DeclSynth.Url

open Unicode (splitWhere)

/-- What a path is read for: how its segments are separated, and whether drive letters count. -/
inductive PathKind where
  | general
  | special
  | file
deriving DecidableEq, Repr

/-- Whether a character separates segments: a slash, and in special schemes either slash. -/
def PathKind.isSeparator (k : PathKind) (c : Char) : Bool :=
  c == '/' || (k != .general && c == '\\')

/-- How a segment is to be taken. -/
inductive SegmentRole where
  | here
  | parent
  | plain
deriving DecidableEq, Repr

/-- The text with every escaped dot as a dot. -/
def revealDots : List Char → List Char
  | '%' :: '2' :: 'e' :: rest | '%' :: '2' :: 'E' :: rest => '.' :: revealDots rest
  | c :: rest => c :: revealDots rest
  | [] => []

/-- The role of a segment. -/
def segmentRole (segment : List Char) : SegmentRole :=
  match revealDots segment with
  | ['.'] => .here
  | ['.', '.'] => .parent
  | _ => .plain

/-- Whether a text starts with an ASCII letter and a colon or a bar. -/
def startsWithDrive : List Char → Bool
  | letter :: mark :: _ => letter.isAlpha && (mark == ':' || mark == '|')
  | _ => false

/-- Whether a text is a drive letter with its colon or bar. -/
def isDrive (cs : List Char) : Bool := cs.length == 2 && startsWithDrive cs

/-- Whether a segment is kept where two dots follow it: a drive letter, which a backslash may
end. -/
def isKept (segment : List Char) : Bool :=
  startsWithDrive segment && (segment.drop 2).head?.all (· == '\\')

/-- The segments before two dots, given the last one first, without the one that the dots take
along. -/
def dropParent : List (List Char) → List (List Char)
  | [] => []
  | last :: done => if isKept last then last :: done else done

/-- What has been read of a path: the segments that a slash ended, the last one first, and whether
a drive letter takes the place of the host. -/
structure PathState where
  done : List (List Char)
  onDrive : Bool
deriving DecidableEq, Repr

/-- A segment as the segments it is written as. At the start of a file path a drive letter gets its
colon, and text after one with a colon is a segment of its own. -/
def PathState.push (kind : PathKind) (s : PathState) (segment : List Char) : PathState :=
  let written := escape escapedInPath segment
  if kind = .file && s.done.isEmpty && startsWithDrive segment then
    match written with
    | [letter, _] => ⟨[[letter, ':']], true⟩
    | letter :: ':' :: rest => ⟨[rest, [letter, ':']], s.onDrive⟩
    | _ => ⟨[written], s.onDrive⟩
  else { s with done := written :: s.done }

/-- Takes a segment that a slash ends. -/
def PathState.step (kind : PathKind) (s : PathState) (segment : List Char) : PathState :=
  match segmentRole segment with
  | .here => s
  | .parent => { s with done := dropParent s.done }
  | .plain => s.push kind segment

/-- Takes the segment at the end, where dots leave an empty segment behind. -/
def PathState.finish (kind : PathKind) (s : PathState) (segment : List Char) : PathState :=
  match segmentRole segment with
  | .plain => s.push kind segment
  | _ => let t := s.step kind segment; { t with done := [] :: t.done }

/-- The segments of a file path without the empty ones at its start, the last segment excepted. -/
def trimSegments : List (List Char) → List (List Char)
  | [] :: next :: rest => trimSegments (next :: rest)
  | segments => segments

/-- The text of a path from its segments, each after a slash. -/
def joinSegments (segments : List (List Char)) : List Char := segments.flatMap ('/' :: ·)

/-- Reads the path behind its first slash. Beside its text it says whether a drive letter takes
the place of the host. -/
def readPath (kind : PathKind) (cs : List Char) : List Char × Bool :=
  let pieces := splitWhere kind.isSeparator cs
  let s := pieces.dropLast.foldl (PathState.step kind) ⟨[], false⟩
  let t := s.finish kind (pieces.getLast?.getD [])
  let segments := t.done.reverse
  (joinSegments (if kind = .file then trimSegments segments else segments), t.onDrive)

end DeclSynth.Url
