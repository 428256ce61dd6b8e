import DeclSynth.Unicode.Table

/-!
# Network addresses

The two kinds of address that a host may be. An address of four bytes is read from one
to four numbers between dots, the last of which fills all bytes that are left; one of
eight groups is read with at most one gap of zeros, and its last two groups may be
written as four bytes. Each kind has one way to be written.
-/

namespace DeclSynth.Url

open Unicode (hexDigit? hexValue splitWhere)

/-- An address of four bytes. -/
structure IPv4 where
  value : UInt32
deriving DecidableEq, Repr

/-- An address of eight groups. -/
structure IPv6 where
  groups : List UInt16
  length_groups : groups.length = 8
deriving DecidableEq, Repr

/-- Whether a character is an octal digit. -/
def isOctalDigit (c : Char) : Bool := '0' ≤ c && c ≤ '7'

/-- The value of digits in a base up to ten. -/
def digitsValue (base : Nat) (cs : List Char) : Nat :=
  cs.foldl (fun n c => n * base + (c.toNat - '0'.toNat)) 0

namespace IPv4

/-- Reads one number of an address: hexadecimal after `0x`, octal after another leading zero,
decimal otherwise. The prefixes alone are zero. -/
def number? : List Char → Option Nat
  | [] => none
  | '0' :: 'x' :: digits | '0' :: 'X' :: digits =>
    if digits.all (hexDigit? · |>.isSome) then some (hexValue digits) else none
  | '0' :: d :: digits =>
    if (d :: digits).all isOctalDigit then some (digitsValue 8 (d :: digits)) else none
  | digits => if digits.all Char.isDigit then some (digitsValue 10 digits) else none

/-- The pieces of a name between its dots, less an empty last one. -/
def pieces (name : List Char) : List (List Char) :=
  let all := splitWhere (· == '.') name
  if all.getLast? = some [] then all.dropLast else all

/-- Whether a name has to be an address: its last piece is a number, or at least digits. -/
def isClaimed (name : List Char) : Bool :=
  match (pieces name).getLast? with
  | none | some [] => false
  | some last => last.all Char.isDigit || (number? last).isSome

/-- Reads an address. All numbers but the last are single bytes. -/
def parse? (name : List Char) : Option IPv4 := do
  let numbers ← (pieces name).mapM number?
  let last ← numbers.getLast?
  let bytes := numbers.dropLast
  if bytes.length ≤ 3 ∧ (∀ b ∈ bytes, b < 256) ∧ last < Nat.pow 256 (4 - bytes.length) then
    let high := bytes.foldl (fun n b => n * 256 + b) 0
    some ⟨UInt32.ofNat (high * Nat.pow 256 (4 - bytes.length) + last)⟩
  else none

/-- The four bytes, the highest first. -/
def bytes (a : IPv4) : List Nat :=
  [3, 2, 1, 0].map fun place => a.value.toNat / Nat.pow 256 place % 256

/-- The four bytes in decimal, with dots between them. -/
def render (a : IPv4) : String := ".".intercalate (a.bytes.map toString)

end IPv4

namespace IPv6

/-- Reads a group: one to four hexadecimal digits. -/
def group? (cs : List Char) : Option UInt16 :=
  if 1 ≤ cs.length ∧ cs.length ≤ 4 ∧ cs.all (hexDigit? · |>.isSome) then
    some (UInt16.ofNat (hexValue cs))
  else none

/-- Reads a byte in decimal, without leading zeros. -/
def byte? (cs : List Char) : Option Nat :=
  if cs ≠ [] ∧ cs.all Char.isDigit ∧ (cs.length = 1 ∨ cs.head? ≠ some '0') ∧
      digitsValue 10 cs < 256 then
    some (digitsValue 10 cs)
  else none

/-- Reads four bytes between dots as two groups. -/
def quad? (cs : List Char) : Option (List UInt16) := do
  match ← (splitWhere (· == '.') cs).mapM byte? with
  | [a, b, c, d] => some [UInt16.ofNat (a * 256 + b), UInt16.ofNat (c * 256 + d)]
  | _ => none

/-- Reads the groups between colons, none for an empty text. The last may be four bytes, if `quad`
allows it. -/
def groups? (quad : Bool) (cs : List Char) : Option (List UInt16) :=
  if cs = [] then some []
  else do
    let all := splitWhere (· == ':') cs
    let first ← all.dropLast.mapM group?
    let last ← all.getLast?
    match group? last with
    | some group => some (first ++ [group])
    | none => if quad then (quad? last).map (first ++ ·) else none

/-- The text before the first two colons in a row and the text after them. -/
def splitGap : List Char → Option (List Char × List Char)
  | ':' :: ':' :: rest => some ([], rest)
  | c :: rest => (splitGap rest).map fun (before, after) => (c :: before, after)
  | [] => none

/-- An address of the given groups, if they are eight. -/
def ofGroups? (groups : List UInt16) : Option IPv6 :=
  if h : groups.length = 8 then some ⟨groups, h⟩ else none

/-- Reads an address. A gap stands for at least one group of zeros. -/
def parse? (cs : List Char) : Option IPv6 :=
  match splitGap cs with
  | none => (groups? true cs).bind ofGroups?
  | some (before, after) => do
    let first ← groups? false before
    let last ← groups? true after
    let missing := 8 - (first.length + last.length)
    if 1 ≤ missing then ofGroups? (first ++ List.replicate missing 0 ++ last) else none

/-- How many groups of zeros a list starts with. -/
def leadingZeros (groups : List UInt16) : Nat := (groups.takeWhile (· == 0)).length

/-- Where the longest run of two or more groups of zeros starts, and how long it is; the first of
equal runs. -/
def longestGap (groups : List UInt16) : Option (Nat × Nat) :=
  (List.range groups.length).foldl
    (fun best start =>
      let length := leadingZeros (groups.drop start)
      if length > (best.map Prod.snd).getD 1 then some (start, length) else best)
    none

/-- Groups in hexadecimal without leading zeros, with colons between them. -/
def renderGroups (groups : List UInt16) : String :=
  ":".intercalate (groups.map fun g => String.ofList (Nat.toDigits 16 g.toNat))

/-- The groups, with the longest run of zeros left out. -/
def render (a : IPv6) : String :=
  match longestGap a.groups with
  | none => renderGroups a.groups
  | some (start, length) =>
    renderGroups (a.groups.take start) ++ "::" ++ renderGroups (a.groups.drop (start + length))

end IPv6

end DeclSynth.Url
