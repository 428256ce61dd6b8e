/-!
# Tables of code points

A table lists hexadecimal ranges in increasing order, `lo-hi` or `lo-hi/step`, with
blanks between them. `RangeSet` reads one as a set and `RangeMap` as a mapping whose
entries carry an image after `>`; both look a code point up by halving.
-/

namespace DeclSynth.Unicode

/-- The code points from `lo` to `hi`, every `step`-th of them. -/
structure CodeRange where
  lo : Nat
  hi : Nat
  step : Nat
deriving DecidableEq, Repr, Inhabited

/-- Whether the range lists the code point. -/
def CodeRange.contains (r : CodeRange) (n : Nat) : Bool :=
  r.lo ≤ n && n ≤ r.hi && (n - r.lo) % r.step == 0

/-- The value of one hexadecimal digit, either case. -/
def hexDigit? (c : Char) : Option Nat :=
  if '0' ≤ c ∧ c ≤ '9' then some (c.toNat - '0'.toNat)
  else if 'a' ≤ c ∧ c ≤ 'f' then some (c.toNat - 'a'.toNat + 10)
  else if 'A' ≤ c ∧ c ≤ 'F' then some (c.toNat - 'A'.toNat + 10)
  else none

/-- The number that a run of hexadecimal digits writes; other characters are passed over. -/
def hexValue (cs : List Char) : Nat :=
  cs.foldl (fun n c => match hexDigit? c with | some d => n * 16 + d | none => n) 0

/-- The pieces of a list between the elements that satisfy `p`. -/
def splitWhere {α : Type} (p : α → Bool) (xs : List α) : List (List α) :=
  xs.foldr
    (fun x pieces => match p x, pieces with
      | true, pieces => [] :: pieces
      | false, piece :: pieces => (x :: piece) :: pieces
      | false, [] => [[x]])
    [[]]

/-- The non-empty pieces of a text between its blanks. -/
def fields (text : String) : List (List Char) :=
  (splitWhere (fun c => c == ' ' || c == '\n') text.toList).filter (· ≠ [])

/-- Reads `lo`, `lo-hi` or `lo-hi/step`. -/
def CodeRange.ofChars (cs : List Char) : CodeRange :=
  let bounds := cs.takeWhile (· ≠ '/')
  let lo := hexValue (bounds.takeWhile (· ≠ '-'))
  let hi := match bounds.dropWhile (· ≠ '-') with
    | [] => lo
    | _ :: digits => hexValue digits
  let step := match cs.dropWhile (· ≠ '/') with
    | [] => 1
    | _ :: digits => hexValue digits
  ⟨lo, hi, step⟩

/-- The entry whose range reaches furthest left of `n` without passing it, by halving. -/
def findEntry {α : Type} (range : α → CodeRange) (entries : Array α) (n : Nat) (lo hi : Nat) :
    Option α :=
  if _h : lo < hi then
    let mid := (lo + hi) / 2
    match entries[mid]? with
    | none => none
    | some e =>
      if n < (range e).lo then findEntry range entries n lo mid
      else if (range e).hi < n then findEntry range entries n (mid + 1) hi
      else some e
  else none
termination_by hi - lo

/-- A set of code points, as ranges that increase and do not meet. -/
structure RangeSet where
  ranges : Array CodeRange

/-- Reads a table of ranges. -/
def RangeSet.ofText (text : String) : RangeSet :=
  ⟨((fields text).map CodeRange.ofChars).toArray⟩

/-- Whether the set holds the code point. -/
def RangeSet.contains (s : RangeSet) (n : Nat) : Bool :=
  match findEntry id s.ranges n 0 s.ranges.size with
  | some r => r.contains n
  | none => false

/-- The image of a range: its first point goes to `image`, and the others move along with it
when the image is a single code point. -/
structure MapEntry where
  range : CodeRange
  image : List Nat
deriving Inhabited

/-- A mapping of code points to sequences of them, as entries in increasing order. -/
structure RangeMap where
  entries : Array MapEntry

/-- Reads `range>image`. -/
def MapEntry.ofChars (cs : List Char) : MapEntry :=
  { range := .ofChars (cs.takeWhile (· ≠ '>'))
    image := match cs.dropWhile (· ≠ '>') with
      | [] => []
      | _ :: image => ((splitWhere (· == ',') image).filter (· ≠ [])).map hexValue }

/-- Reads a table of entries. -/
def RangeMap.ofText (text : String) : RangeMap :=
  ⟨((fields text).map MapEntry.ofChars).toArray⟩

/-- The image of a code point, if the mapping has one. -/
def RangeMap.find? (m : RangeMap) (n : Nat) : Option (List Nat) :=
  match findEntry MapEntry.range m.entries n 0 m.entries.size with
  | some e =>
    if e.range.contains n then
      some (match e.image with
        | [target] => [target + (n - e.range.lo)]
        | image => image)
    else none
  | none => none

/-- The first number that the entry around a code point carries, the same for all points of its
range. -/
def RangeMap.label? (m : RangeMap) (n : Nat) : Option Nat :=
  match findEntry MapEntry.range m.entries n 0 m.entries.size with
  | some e => if e.range.contains n then e.image.head? else none
  | none => none

end DeclSynth.Unicode
