import DeclSynth.Event
import DeclSynth.Json.Codec

/-!
# Stores

A store maps texts to JSON values. Any type that can be written as JSON can be stored,
and is read back as the type that is asked for. The typed readers find nothing both
where there is no value and where it is of another type; `Store.tryDecode` tells the two
apart. A write is logged, and so is a value that `Store.decode` has to discard.
-/

namespace DeclSynth

open Json

/-- A store of JSON values. -/
structure Store where
  values : SortedMap String Value

/-- Why a value could not be stored, or read as the type that was asked for. -/
inductive StoreError where
  | encode (key : String) (cause : EncodeError)
  | decode (key : String) (cause : DecodeError)
deriving DecidableEq, Repr

/-- The wording of a store error. -/
def StoreError.message : StoreError → String
  | encode key cause => "cannot encode value for key `" ++ key ++ "`: " ++ cause.message
  | decode key cause => "cannot decode value for key `" ++ key ++ "`: " ++ cause.message

namespace Store

/-- The store without values. -/
def empty : Store := ⟨.empty⟩

/-! ## Values -/

/-- The value under a key. -/
def get? (s : Store) (key : String) : Option Value := s.values.get? key

/-- The store with a value under a key. -/
def set (s : Store) (key : String) (v : Value) : Store := ⟨s.values.insert key v⟩

/-- The store without a key. -/
def erase (s : Store) (key : String) : Store := ⟨s.values.erase key⟩

/-- Whether there is a value under a key. -/
def contains (s : Store) (key : String) : Bool := (s.get? key).isSome

/-- The number of keys. -/
def size (s : Store) : Nat := s.values.size

/-- Whether there are no keys. -/
def isEmpty (s : Store) : Bool := s.values.isEmpty

/-- The keys, in order. -/
def keys (s : Store) : List String := s.values.keys

/-! ## Typed readers -/

/-- The truth value under a key. -/
def bool? (s : Store) (key : String) : Option Bool := (s.get? key).bind Value.bool?

/-- The signed integer of 64 bits under a key. -/
def integer? (s : Store) (key : String) : Option Int := (s.get? key).bind Value.integer?

/-- The number under a key, as a double. -/
def float? (s : Store) (key : String) : Option Double := (s.get? key).bind Value.double?

/-- The text under a key. -/
def string? (s : Store) (key : String) : Option String := (s.get? key).bind Value.string?

/-! ## Values of other types -/

variable {α : Type}

/-- The value under a key as a value of a type; nothing if there is none. -/
def tryDecode (α : Type) [Decode α] (s : Store) (key : String) : Except StoreError (Option α) :=
  match s.get? key with
  | none => .ok none
  | some v =>
    match Json.decode v with
    | .ok a => .ok (some a)
    | .error cause => .error (.decode key cause)

/-- What is logged of a value that is discarded. -/
def discardEvent (key : String) (e : StoreError) : Event :=
  ⟨.warn, "stored value does not match the accessor type", [("key", key), ("error", e.message)]⟩

/-- The value under a key as a value of a type, with the log; a value of another type is
discarded. -/
def decode (α : Type) [Decode α] (s : Store) (key : String) : Option α × List Event :=
  match tryDecode α s key with
  | .ok found => (found, [])
  | .error e => (none, [discardEvent key e])

/-- What is logged of a write. -/
def writeEvent (key : String) : Event := ⟨.trace, "store write", [("key", key)]⟩

/-- What is logged of a value that cannot be stored. -/
def refusalEvent (key : String) (cause : EncodeError) : Event :=
  ⟨.warn, "value could not be stored", [("key", key), ("error", cause.message)]⟩

/-- A store after an attempt to write: the error if it failed, and the log. -/
structure Written where
  store : Store
  error : Option StoreError
  events : List Event

/-- Writes a value under a key. -/
def write (s : Store) (key : String) (v : Value) : Written :=
  ⟨s.set key v, none, [writeEvent key]⟩

/-- Stores a value of a type under a key. What cannot be written leaves the store as it is. -/
def store [Encode α] (s : Store) (key : String) (a : α) : Written :=
  match encode a with
  | .ok v => s.write key v
  | .error cause => ⟨s, some (.encode key cause), [refusalEvent key cause]⟩

end Store

end DeclSynth
