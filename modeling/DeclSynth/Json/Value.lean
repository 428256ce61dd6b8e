import DeclSynth.Number.Decimal
import DeclSynth.SortedMap

/-!
# JSON values

A number is an integer or a finite double. An object lists its entries in the order of
their keys, each key once; `Value.ofEntries` makes one of entries in any order.
-/

namespace DeclSynth.Json

/-- A JSON value. -/
inductive Value where
  | null
  | bool (b : Bool)
  | int (n : Int)
  | float (x : Double)
  | string (text : String)
  | array (elems : List Value)
  | object (entries : List (String × Value))
deriving Inhabited

namespace Value

/-- A double as a value. Infinities and what is no number have no place in JSON. -/
def ofDouble (x : Double) : Value := if x.isFinite then .float x else .null

/-- The object with some entries; of two with the same key the later one counts. -/
def ofEntries (entries : List (String × Value)) : Value :=
  .object (SortedMap.ofList entries).entries

/-- Whether the value is a truth value, and which. -/
def bool? : Value → Option Bool
  | .bool b => some b
  | _ => none

/-- The value as a signed integer of 64 bits, if it is one. -/
def integer? : Value → Option Int
  | .int n => if -Int.pow 2 63 ≤ n ∧ n < Int.pow 2 63 then some n else none
  | _ => none

/-- The value as a double, if it is a number. -/
def double? : Value → Option Double
  | .int n => some (.ofInt n)
  | .float x => some x
  | _ => none

/-- The value as a text, if it is one. -/
def string? : Value → Option String
  | .string text => some text
  | _ => none

end Value

end DeclSynth.Json
