import DeclSynth.Json.Value
import DeclSynth.Text.Quoted

/-!
# Values of other types as JSON

`Encode α` says how values of a type are written as JSON, and `Decode α` how they are
read. A type may have values that cannot be written, and most JSON values are no value
of the type; `EncodeError` and `DecodeError` name the reasons.
-/

namespace DeclSynth.Json

/-- Why a value cannot be written. -/
inductive EncodeError where
  | numberOutOfRange
  | keyNotText
deriving DecidableEq, Repr

/-- The wording of an encoding error. -/
def EncodeError.message : EncodeError → String
  | numberOutOfRange => "number out of range"
  | keyNotText => "key must be a string"

/-- What was found in place of what was wanted. -/
inductive Found where
  | null
  | bool (b : Bool)
  | int (n : Int)
  | float (x : Double)
  | text (text : String)
  | sequence
  | map
  /-- A case that was given without its content. -/
  | bareCase
deriving DecidableEq, Repr

/-- How messages describe what was found. -/
def Found.description : Found → String
  | null => "null"
  | bool b => "boolean `" ++ toString b ++ "`"
  | int n => "integer `" ++ toString n ++ "`"
  | float x => "floating point `" ++ x.text ++ "`"
  | text t => "string " ++ Text.display t
  | sequence => "sequence"
  | map => "map"
  | bareCase => "unit variant"

/-- What a value is found to be. -/
def Value.found : Value → Found
  | .null => .null
  | .bool b => .bool b
  | .int n => .int n
  | .float x => .float x
  | .string t => .text t
  | .array _ => .sequence
  | .object _ => .map

/-- Why a JSON value is no value of a type. -/
inductive DecodeError where
  | wrongType (found : Found) (wanted : String)
  | wrongValue (found : Found) (wanted : String)
  | wrongLength (length : Nat) (wanted : String)
  | missingField (name : String)
  | unknownCase (name : String) (known : List String)
  /-- A key does not start like a number, or goes on behind one. -/
  | keyNotNumber
  /-- A key starts like a number and is none of the wanted ones. -/
  | malformedKey (message : String)
deriving DecidableEq, Repr

/-- Alternatives, as messages list them. -/
def alternatives : List String → String
  | [] => "there are no variants"
  | [a] => "expected `" ++ a ++ "`"
  | [a, b] => "expected `" ++ a ++ "` or `" ++ b ++ "`"
  | names => "expected one of " ++ ", ".intercalate (names.map fun n => "`" ++ n ++ "`")

/-- The wording of a decoding error. -/
def DecodeError.message : DecodeError → String
  | wrongType found wanted => "invalid type: " ++ found.description ++ ", expected " ++ wanted
  | wrongValue found wanted => "invalid value: " ++ found.description ++ ", expected " ++ wanted
  | wrongLength length wanted => "invalid length " ++ toString length ++ ", expected " ++ wanted
  | missingField name => "missing field `" ++ name ++ "`"
  | unknownCase name known => "unknown variant `" ++ name ++ "`, " ++ alternatives known
  | keyNotNumber => "invalid value: expected key to be a number in quotes"
  | malformedKey message => message

/-- How values of a type are written. -/
class Encode (α : Type) where
  encode : α → Except EncodeError Value

/-- How values of a type are read. -/
class Decode (α : Type) where
  decode : Value → Except DecodeError α

export Encode (encode)
export Decode (decode)

/-- Refuses a value because another type was wanted. -/
def refused {α : Type} (v : Value) (wanted : String) : Except DecodeError α :=
  .error (.wrongType v.found wanted)

/-! ## Plain types -/

instance : Encode Value := ⟨.ok⟩

instance : Decode Value := ⟨.ok⟩

instance : Encode Bool := ⟨fun b => .ok (.bool b)⟩

instance : Decode Bool where
  decode
    | .bool b => .ok b
    | v => refused v "a boolean"

instance : Encode String := ⟨fun text => .ok (.string text)⟩

instance : Decode String where
  decode
    | .string text => .ok text
    | v => refused v "a string"

instance : Encode Unit := ⟨fun _ => .ok .null⟩

instance : Decode Unit where
  decode
    | .null => .ok ()
    | v => refused v "unit"

/-- The character that a text of one character holds. -/
def charOf (text : String) : Except DecodeError Char :=
  match text.toList with
  | [c] => .ok c
  | _ => .error (.wrongValue (.text text) "a character")

instance : Encode Char := ⟨fun c => .ok (.string c.toString)⟩

instance : Decode Char where
  decode
    | .string text => charOf text
    | v => refused v "a character"

instance : Encode Double := ⟨fun x => .ok (.ofDouble x)⟩

instance : Decode Double where
  decode
    | .int n => .ok (.ofInt n)
    | .float x => .ok x
    | v => refused v "f64"

/-- A number of the 32-bit format, kept as the double of the same value. -/
structure Single where
  value : Double
deriving DecidableEq, Repr

instance : Encode Single := ⟨fun x => .ok (.ofDouble x.value)⟩

instance : Decode Single where
  decode
    | .int n => .ok ⟨.ofIntSingle n⟩
    | .float x => .ok ⟨x.toSingle⟩
    | v => refused v "f32"

instance {α : Type} [Encode α] : Encode (Option α) where
  encode
    | some a => encode a
    | none => .ok .null

instance {α : Type} [Decode α] : Decode (Option α) where
  decode
    | .null => .ok none
    | v => some <$> decode v

/-! ## Integers -/

/-- The integer types. -/
inductive IntKind where
  | u8
  | i16
  | u32
  | i64
  | u64
  | i128
deriving DecidableEq, Repr

namespace IntKind

/-- The name of an integer type. -/
def name : IntKind → String
  | u8 => "u8"
  | i16 => "i16"
  | u32 => "u32"
  | i64 => "i64"
  | u64 => "u64"
  | i128 => "i128"

/-- The least value of an integer type. -/
def least : IntKind → Int
  | u8 | u32 | u64 => 0
  | i16 => -Int.pow 2 15
  | i64 => -Int.pow 2 63
  | i128 => -Int.pow 2 127

/-- The greatest value of an integer type. -/
def greatest : IntKind → Int
  | u8 => Int.pow 2 8 - 1
  | i16 => Int.pow 2 15 - 1
  | u32 => Int.pow 2 32 - 1
  | i64 => Int.pow 2 63 - 1
  | u64 => Int.pow 2 64 - 1
  | i128 => Int.pow 2 127 - 1

end IntKind

/-- A value of an integer type. -/
structure Bounded (kind : IntKind) where
  val : Int
  least_le : kind.least ≤ val
  le_greatest : val ≤ kind.greatest
deriving DecidableEq

namespace Bounded

variable {kind : IntKind}

/-- An integer as a value of an integer type, if it is one. -/
def ofInt? (kind : IntKind) (n : Int) : Option (Bounded kind) :=
  if h : kind.least ≤ n ∧ n ≤ kind.greatest then some ⟨n, h.1, h.2⟩ else none

instance : Ord (Bounded kind) := ⟨fun a b => compare a.val b.val⟩

instance : Std.TransOrd (Bounded kind) :=
  inferInstanceAs (Std.TransCmp (compareOn fun a : Bounded kind => a.val))

/-- The value that an integer of another type stands for. -/
def ofInt (kind : IntKind) (n : Int) : Except DecodeError (Bounded kind) :=
  match ofInt? kind n with
  | some b => .ok b
  | none => .error (.wrongValue (.int n) kind.name)

/-- JSON integers have at most 64 bits. -/
instance : Encode (Bounded kind) where
  encode b :=
    if -Int.pow 2 63 ≤ b.val ∧ b.val < Int.pow 2 64 then .ok (.int b.val)
    else .error .numberOutOfRange

instance : Decode (Bounded kind) where
  decode
    | .int n => ofInt kind n
    | v => refused v kind.name

end Bounded

end DeclSynth.Json
