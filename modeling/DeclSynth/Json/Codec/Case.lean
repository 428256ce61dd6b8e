import DeclSynth.Json.Codec.Compound

/-!
# Cases as JSON

A value of a type with cases is written as the name of its case alone, if the case has no
content, and else as an object with one entry: the name and the content.
-/

namespace DeclSynth.Json

/-- The case that a value names, and the content that is given with it. -/
def caseOf : Value → Except DecodeError (String × Option Value)
  | .string name => .ok (name, none)
  | .object [(name, content)] => .ok (name, some content)
  | .object _ => .error (.wrongValue .map "map with a single key")
  | v => refused v "string or map"

/-- Checks that a case without content has none, or an empty one. -/
def noContent : Option Value → Except DecodeError Unit
  | none => .ok ()
  | some v => decode v

/-- The content of a case that has to have one; messages call the case's form `what`. -/
def content (what : String) : Option Value → Except DecodeError Value
  | none => .error (.wrongType .bareCase what)
  | some v => .ok v

/-- A case with content. -/
def tagged (name : String) (content : Value) : Value := .object [(name, content)]

/-! ## Types whose cases have no content -/

/-- Reads a type whose cases have no content, given by its cases and their names. -/
def decodeCase {α : Type} (all : List α) (name : α → String) (v : Value) : Except DecodeError α :=
  match caseOf v with
  | .error e => .error e
  | .ok (found, payload) =>
    match all.find? (name · == found) with
    | none => .error (.unknownCase found (all.map name))
    | some a => do
      noContent payload
      return a

end DeclSynth.Json
