import DeclSynth.Config.Read
import DeclSynth.Json.Codec.Compound

/-!
# Configurations as JSON values

A configuration that comes as a value sets what it names, or what it lists in order, and
is not checked further.
-/

namespace DeclSynth.Config

open Json

/-- The settings that a list gives, in their order. -/
def ofList (elems : List Value) : Except DecodeError Config := do
  let given ← (Setting.all.zip elems).mapM fun (s, v) => do return (s, ← decode v)
  if elems.length > Setting.all.length then
    .error (.wrongLength elems.length "fewer elements in array")
  else return given.foldl (fun c (s, value) => s.set value c) default

/-- The settings that entries give by name. -/
def ofEntries (entries : List (String × Value)) : Except DecodeError Config := do
  let found ← decodeFields (Setting.all.map Setting.name) entries
  return Setting.all.foldl
    (fun c s => match found.find? (·.1 == s.name) with
      | some (_, value) => s.set value c
      | none => c)
    default

instance : Decode Config where
  decode
    | .array elems => ofList elems
    | .object entries => ofEntries entries
    | v => refused v "struct ExpansionConfig"

end DeclSynth.Config
