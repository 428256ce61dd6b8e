import DeclSynth.Json.Codec
import DeclSynth.Json.Scan

/-!
# Lists, pairs, maps and records as JSON

A list and a pair are arrays, a map and a record are objects. Keys are texts: those of a
map whose keys are integers are their decimal digits, and have to be read as numbers.
-/

namespace DeclSynth.Json

variable {α β : Type}

/-! ## Lists and pairs -/

instance [Encode α] : Encode (List α) := ⟨fun elems => .array <$> elems.mapM encode⟩

instance [Decode α] : Decode (List α) where
  decode
    | .array elems => elems.mapM decode
    | v => refused v "a sequence"

/-- The two values that a list of two holds; messages call it `what`. -/
def decodeTwo [Decode α] [Decode β] (what : String) (elems : List Value) :
    Except DecodeError (α × β) :=
  match elems with
  | [] => .error (.wrongLength 0 what)
  | first :: rest => do
    let a ← decode first
    match rest with
    | [] => .error (.wrongLength 1 what)
    | second :: rest =>
      let b ← decode second
      if rest.isEmpty then return (a, b)
      else .error (.wrongLength elems.length "fewer elements in array")

/-- Two values as a list. -/
def encodeTwo [Encode α] [Encode β] (a : α) (b : β) : Except EncodeError Value := do
  return .array [← encode a, ← encode b]

instance [Encode α] [Encode β] : Encode (α × β) := ⟨fun p => encodeTwo p.1 p.2⟩

instance [Decode α] [Decode β] : Decode (α × β) where
  decode
    | .array elems => decodeTwo "a tuple of size 2" elems
    | v => refused v "a tuple of size 2"

/-! ## Keys -/

/-- How keys of a type are written. -/
class EncodeKey (κ : Type) where
  encodeKey : κ → Except EncodeError String

/-- How keys of a type are read. -/
class DecodeKey (κ : Type) where
  decodeKey : String → Except DecodeError κ

export EncodeKey (encodeKey)
export DecodeKey (decodeKey)

instance : EncodeKey String := ⟨.ok⟩

instance : DecodeKey String := ⟨.ok⟩

instance : EncodeKey Bool := ⟨fun b => .ok (toString b)⟩

instance : EncodeKey Char := ⟨fun c => .ok c.toString⟩

/-- A pair is no key. -/
instance : EncodeKey (α × β) := ⟨fun _ => .error .keyNotText⟩

/-- An optional value is no key, whether there is one or not. -/
instance : EncodeKey (Option α) := ⟨fun _ => .error .keyNotText⟩

instance {kind : IntKind} : EncodeKey (Bounded kind) := ⟨fun b => .ok (toString b.val)⟩

/-- An integer as a value of an integer type, at the cursor. -/
def boundedAt (kind : IntKind) (n : Int) : Scan (Bounded kind) :=
  match Bounded.ofInt? kind n with
  | some b => return b
  | none => Scan.fail (.wrongValue (Found.int n).description kind.name)

/-- The integer that comes next. -/
def scanBounded (kind : IntKind) : Scan (Bounded kind) := do
  let negative := (← Scan.peek) == some '-'
  if negative then Scan.skip
  match ← Scan.number negative with
  | .natural n => boundedAt kind n
  | .negative n => boundedAt kind (-n)
  | .float x => Scan.fail (.wrongType (Found.float x).description kind.name)

/-- The integer that a key spells. -/
def decodeIntKey (kind : IntKind) (text : String) : Except DecodeError (Bounded kind) :=
  match text.toList with
  | [] => .error .keyNotNumber
  | c :: _ =>
    if c.isDigit || c == '-' then
      match (scanBounded kind).run (.start text) with
      | .error e => .error (.malformedKey e.message)
      | .ok (b, cursor) => if cursor.rest.isEmpty then .ok b else .error .keyNotNumber
    else .error .keyNotNumber

instance {kind : IntKind} : DecodeKey (Bounded kind) := ⟨decodeIntKey kind⟩

/-! ## Maps -/

variable {κ : Type}

/-- An entry of a map as an entry of an object. -/
def encodeEntry [EncodeKey κ] [Encode α] (e : κ × α) : Except EncodeError (String × Value) := do
  return (← encodeKey e.1, ← encode e.2)

/-- An entry of an object as an entry of a map. -/
def decodeEntry [DecodeKey κ] [Decode α] (e : String × Value) : Except DecodeError (κ × α) := do
  return (← decodeKey e.1, ← decode e.2)

/-- A map that is written entry by entry, in any order. -/
structure Entries (κ α : Type) where
  list : List (κ × α)

instance [EncodeKey κ] [Encode α] : Encode (Entries κ α) :=
  ⟨fun m => .ofEntries <$> m.list.mapM encodeEntry⟩

instance [Ord κ] [EncodeKey κ] [Encode α] : Encode (SortedMap κ α) :=
  ⟨fun m => encode (Entries.mk m.entries)⟩

instance [Ord κ] [Std.TransOrd κ] [DecodeKey κ] [Decode α] : Decode (SortedMap κ α) where
  decode
    | .object entries => .ofList <$> entries.mapM decodeEntry
    | v => refused v "a map"

/-! ## Records -/

/-- The fields of these names among entries, in the order of the entries. -/
def decodeFields [Decode α] (names : List String) (entries : List (String × Value)) :
    Except DecodeError (List (String × α)) :=
  (entries.filter fun e => names.contains e.1).mapM decodeEntry

/-- The field of a name. -/
def field (name : String) (found : List (String × α)) : Except DecodeError α :=
  match found.find? (·.1 == name) with
  | some e => .ok e.2
  | none => .error (.missingField name)

/-- The two fields of a record; others are passed over. -/
def decodeTwoFields [Decode α] (first second : String) (entries : List (String × Value)) :
    Except DecodeError (α × α) := do
  let found ← decodeFields [first, second] entries
  return (← field first found, ← field second found)

/-- A record of two fields. -/
def encodeTwoFields [Encode α] (first second : String) (a b : α) : Except EncodeError Value := do
  return .ofEntries [(first, ← encode a), (second, ← encode b)]

end DeclSynth.Json
