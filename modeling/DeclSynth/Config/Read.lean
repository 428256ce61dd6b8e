import DeclSynth.Config
import DeclSynth.Json.Scan
import DeclSynth.Unicode.Blank

/-!
# Reading a configuration

A configuration is written as a JSON object that sets some of the settings, or as a list
of settings in their order; settings that are left out keep their defaults, and unknown
ones are passed over. `Config.ofJson` also checks what it reads.
-/

namespace DeclSynth.Config

open Json (Scan Fault)
open Json.Scan

/-- The settings, by the names they are written under. -/
inductive Setting where
  | cratePath
  | sealedSuffix
  | aggregateClassifier
  | asyncSuffix
  | defaultStore
deriving DecidableEq, Repr

namespace Setting

/-- All settings, in the order in which a list sets them. -/
def all : List Setting :=
  [cratePath, sealedSuffix, aggregateClassifier, asyncSuffix, defaultStore]

/-- The name of a setting. -/
def name : Setting → String
  | cratePath => "crate_path"
  | sealedSuffix => "sealed_suffix"
  | aggregateClassifier => "aggregate_classifier"
  | asyncSuffix => "async_suffix"
  | defaultStore => "default_store"

/-- A configuration with one setting changed. -/
def set (s : Setting) (value : String) (c : Config) : Config :=
  match s with
  | cratePath => { c with cratePath := value }
  | sealedSuffix => { c with sealedSuffix := value }
  | aggregateClassifier => { c with aggregateClassifier := value }
  | asyncSuffix => { c with asyncSuffix := value }
  | defaultStore => { c with defaultStore := value }

/-- The value of a setting. -/
def get (s : Setting) (c : Config) : String :=
  match s with
  | cratePath => c.cratePath
  | sealedSuffix => c.sealedSuffix
  | aggregateClassifier => c.aggregateClassifier
  | asyncSuffix => c.asyncSuffix
  | defaultStore => c.defaultStore

end Setting

/-- The value of a setting. -/
def settingValue : Scan String := do
  match ← blanks with
  | some '"' =>
    skip
    string
  | some _ => refuse "a string"
  | none => failAhead .endInValue

/-- Whether a list goes on behind the settings read so far. -/
def listGoesOn (first : Bool) : Scan Bool := do
  match ← blanks with
  | none => failAhead .endInList
  | some ']' => return false
  | some c =>
    if first then return true
    if c ≠ ',' then failAhead .expectedListEnd
    skip
    match ← blanks with
    | some ']' => failAhead .trailingComma
    | some _ => return true
    | none => failAhead .endInValue

/-- Settings in their order, as far as a list gives them. -/
def listed : (first : Bool) → List Setting → Config → Scan Config
  | _, [], c => return c
  | first, s :: rest, c => do
    if ← listGoesOn first then
      let value ← settingValue
      listed false rest (s.set value c)
    else return c

/-- Takes the end of a list. -/
def listEnd : Scan Unit := do
  match ← blanks with
  | some ']' => skip
  | some ',' =>
    skip
    if (← blanks) = some ']' then failAhead .trailingComma else failAhead .trailingCharacters
  | some _ => failAhead .trailingCharacters
  | none => failAhead .endInList

/-- Takes the end of an object. -/
def objectEnd : Scan Unit := do
  match ← blanks with
  | some '\x7d' => skip
  | some ',' => failAhead .trailingComma
  | some _ => failAhead .trailingCharacters
  | none => failAhead .endInObject

/-- Whether a key comes next behind the settings read so far. -/
def objectGoesOn (first : Bool) : Scan Bool := do
  let key : Option Char → Scan Bool := fun
    | some '"' => return true
    | some '\x7d' => failAhead .trailingComma
    | some _ => failAhead .keyNotString
    | none => failAhead .endInValue
  match ← blanks with
  | none => failAhead .endInObject
  | some '\x7d' => return false
  | some c =>
    if first then key (some c)
    else if c = ',' then
      skip
      key (← blanks)
    else failAhead .expectedObjectEnd

/-- Takes the colon between a key and its value. -/
def colon : Scan Unit := do
  match ← blanks with
  | some ':' => skip
  | some _ => failAhead .expectedColon
  | none => failAhead .endInObject

/-- Stops because a setting is set twice. The end of the object is looked for first, which moves
the place of the error past blanks. -/
def twice (s : Setting) : Scan Config := do
  match ← blanks with
  | some '\x7d' => skip
  | _ => pure ()
  fail (.duplicateField s.name)

/-- Settings by name, in at most so many steps; `seen` holds those that are set. -/
def named : (steps : Nat) → (first : Bool) → (seen : List Setting) → Config → Scan Config
  | 0, _, _, c => return c
  | steps + 1, first, seen, c => do
    if !(← objectGoesOn first) then return c
    skip
    let key ← string
    match Setting.all.find? (·.name == key) with
    | none =>
      colon
      skipValue
      named steps false seen c
    | some s =>
      if seen.contains s then twice s
      else
        colon
        let value ← settingValue
        named steps false (s :: seen) (s.set value c)

/-- A configuration, written as an object or as a list. -/
def written : Scan Config := do
  match ← blanks with
  | none => failAhead .endInValue
  | some '[' =>
    skip
    let c ← listed true Setting.all default
    listEnd
    return c
  | some '\x7b' =>
    skip
    let c ← named ((← get).rest.length + 1) true [] default
    objectEnd
    return c
  | some _ => refuse "struct ExpansionConfig"

/-- A configuration and nothing behind it. -/
def complete : Scan Config := do
  let c ← written
  if (← blanks).isSome then failAhead .trailingCharacters
  return c

/-- The configuration that a JSON text writes, unchecked. -/
def parse (text : String) : Except Json.Error Config :=
  (·.1) <$> complete.run (.start text)

/-- The checked configuration that a JSON text writes. -/
def ofJson (text : String) : Except ExpandError Config :=
  match parse text with
  | .error e => .error (.config e.message)
  | .ok c =>
    match c.validate with
    | .ok () => .ok c
    | .error e => .error e

/-- The configuration that a setting of the environment asks for: the default one if the setting
is absent or blank. -/
def load (environment : Option String) : Except ExpandError Config :=
  match environment with
  | some text => if text.toList.all Unicode.isWhiteSpace then .ok default else ofJson text
  | none => .ok default

end DeclSynth.Config
