import DeclSynth.Json.Codec.Case

/-!
# Sample types as JSON

Three types of the kinds that programs store: cases without content, cases with every
form of content, and a record.
-/

namespace DeclSynth.Json

/-- Cases without content. -/
inductive Theme where
  | light
  | dark
deriving DecidableEq, Repr

namespace Theme

/-- All cases. -/
def all : List Theme := [light, dark]

/-- The name of a case. -/
def name : Theme → String
  | light => "Light"
  | dark => "Dark"

instance : Encode Theme := ⟨fun t => .ok (.string t.name)⟩

instance : Decode Theme := ⟨decodeCase all name⟩

end Theme

/-- Cases with no content, a value, a list of two values and a record of two. -/
inductive Figure where
  | empty
  | circle (radius : Double)
  | pair (a b : Bounded .i64)
  | rect (w h : Bounded .i64)
deriving DecidableEq

namespace Figure

/-- The content of a list of two: an array, which has to have elements at all. -/
def pairOf (v : Value) : Except DecodeError Figure :=
  let what := "tuple variant Shape::Pair"
  match v with
  | .array [] => .error (.wrongType .null what)
  | .array elems => do
    let (a, b) ← decodeTwo (what ++ " with 2 elements") elems
    return pair a b
  | v => refused v "tuple variant"

/-- The content of a record of two. -/
def rectOf (v : Value) : Except DecodeError Figure :=
  match v with
  | .object entries => do
    let (w, h) ← decodeTwoFields "w" "h" entries
    return rect w h
  | v => refused v "struct variant"

/-- The figure of a case and its content. -/
def ofCase (name : String) (payload : Option Value) : Except DecodeError Figure :=
  match name with
  | "Empty" => do
    noContent payload
    return empty
  | "Circle" => do
    let v ← content "newtype variant" payload
    return circle (← decode v)
  | "Pair" => do
    let v ← content "tuple variant" payload
    pairOf v
  | "Rect" => do
    let v ← content "struct variant" payload
    rectOf v
  | name => .error (.unknownCase name ["Empty", "Circle", "Pair", "Rect"])

instance : Encode Figure where
  encode
    | empty => .ok (.string "Empty")
    | circle radius => tagged "Circle" <$> encode radius
    | pair a b => tagged "Pair" <$> encodeTwo a b
    | rect w h => tagged "Rect" <$> encodeTwoFields "w" "h" w h

instance : Decode Figure where
  decode v := do
    let (name, payload) ← caseOf v
    ofCase name payload

end Figure

/-- A record of two integers. -/
structure Point where
  x : Bounded .i64
  y : Bounded .i64
deriving DecidableEq

namespace Point

instance : Encode Point := ⟨fun p => encodeTwoFields "x" "y" p.x p.y⟩

/-- A record may also be given as the list of its fields. -/
instance : Decode Point where
  decode
    | .array elems => do
      let (x, y) ← decodeTwo "struct Point with 2 elements" elems
      return ⟨x, y⟩
    | .object entries => do
      let (x, y) ← decodeTwoFields "x" "y" entries
      return ⟨x, y⟩
    | v => refused v "struct Point"

end Point

end DeclSynth.Json
