import DeclSynth.Proofs.Json.RoundTrip

/-!
# The types of stored values

`Shape` lists the types whose values are stored: plain types, the sample types, and those
built of others by options, lists, pairs and maps, in any nesting. `Shape.Fits` says of a
value that JSON has a place for all that it holds, and every value that fits round trips
(`Shape.roundTrips`).
-/

namespace DeclSynth.Json

variable {kind : IntKind}

/-- Types of stored values: any JSON, plain types, the sample types, and types built of others. -/
inductive Shape where
  | value
  | bool
  | int (kind : IntKind)
  | double
  | char
  | string
  | unit
  | theme
  | figure
  | point
  | option (s : Shape)
  | list (s : Shape)
  | pair (s t : Shape)
  /-- Maps whose keys are texts. -/
  | textMap (s : Shape)
  /-- Maps whose keys are integers. -/
  | intMap (kind : IntKind) (s : Shape)
deriving DecidableEq, Repr

namespace Shape

/-- The values of a type. -/
def Carrier : Shape → Type
  | value => Value
  | bool => Bool
  | int kind => Bounded kind
  | double => Double
  | char => Char
  | string => String
  | unit => Unit
  | theme => Theme
  | figure => Figure
  | point => Point
  | option s => Option s.Carrier
  | list s => List s.Carrier
  | pair s t => s.Carrier × t.Carrier
  | textMap s => SortedMap String s.Carrier
  | intMap kind s => SortedMap (Bounded kind) s.Carrier

/-- How the values of a type are written. -/
instance encodeCarrier : (s : Shape) → Encode s.Carrier
  | value => inferInstanceAs (Encode Value)
  | bool => inferInstanceAs (Encode Bool)
  | int kind => inferInstanceAs (Encode (Bounded kind))
  | double => inferInstanceAs (Encode Double)
  | char => inferInstanceAs (Encode Char)
  | string => inferInstanceAs (Encode String)
  | unit => inferInstanceAs (Encode Unit)
  | theme => inferInstanceAs (Encode Theme)
  | figure => inferInstanceAs (Encode Figure)
  | point => inferInstanceAs (Encode Point)
  | option s => let _ := encodeCarrier s; inferInstanceAs (Encode (Option s.Carrier))
  | list s => let _ := encodeCarrier s; inferInstanceAs (Encode (List s.Carrier))
  | pair s t => let _ := encodeCarrier s; let _ := encodeCarrier t;
    inferInstanceAs (Encode (s.Carrier × t.Carrier))
  | textMap s => let _ := encodeCarrier s; inferInstanceAs (Encode (SortedMap String s.Carrier))
  | intMap kind s => let _ := encodeCarrier s;
    inferInstanceAs (Encode (SortedMap (Bounded kind) s.Carrier))

/-- How the values of a type are read. -/
instance decodeCarrier : (s : Shape) → Decode s.Carrier
  | value => inferInstanceAs (Decode Value)
  | bool => inferInstanceAs (Decode Bool)
  | int kind => inferInstanceAs (Decode (Bounded kind))
  | double => inferInstanceAs (Decode Double)
  | char => inferInstanceAs (Decode Char)
  | string => inferInstanceAs (Decode String)
  | unit => inferInstanceAs (Decode Unit)
  | theme => inferInstanceAs (Decode Theme)
  | figure => inferInstanceAs (Decode Figure)
  | point => inferInstanceAs (Decode Point)
  | option s => let _ := decodeCarrier s; inferInstanceAs (Decode (Option s.Carrier))
  | list s => let _ := decodeCarrier s; inferInstanceAs (Decode (List s.Carrier))
  | pair s t => let _ := decodeCarrier s; let _ := decodeCarrier t;
    inferInstanceAs (Decode (s.Carrier × t.Carrier))
  | textMap s => let _ := decodeCarrier s; inferInstanceAs (Decode (SortedMap String s.Carrier))
  | intMap kind s => let _ := decodeCarrier s;
    inferInstanceAs (Decode (SortedMap (Bounded kind) s.Carrier))

/-- Whether `null` is read as a value of the type. -/
def readsNull : Shape → Bool
  | value | unit | option _ => true
  | _ => false

/-- Whether JSON has a number for an integer: only the widest type has others. -/
def FitsInt (b : Bounded kind) : Prop :=
  kind = .i128 → -Int.pow 2 63 ≤ b.val ∧ b.val < Int.pow 2 64

/-- What a value holds has its place in JSON: integers of 64 bits, finite doubles, and values that
are there where they are optional, which are not written as `null`. -/
def Fits : (s : Shape) → s.Carrier → Prop
  | int _, b => FitsInt b
  | double, x => x.isFinite = true
  | figure, f => ∀ radius, f = .circle radius → radius.isFinite = true
  | option s, found => ∀ a, found = some a → s.readsNull = false ∧ s.Fits a
  | list s, (l : List s.Carrier) => ∀ a ∈ l, s.Fits a
  | pair s t, p => s.Fits p.1 ∧ t.Fits p.2
  | textMap s, m => ∀ e ∈ m.entries, s.Fits e.2
  | intMap _ s, m => ∀ e ∈ m.entries, FitsInt e.1 ∧ s.Fits e.2
  | _, _ => True

theorem FitsInt.bounds {b : Bounded kind} (h : FitsInt b) :
    -Int.pow 2 63 ≤ b.val ∧ b.val < Int.pow 2 64 := by
  have hleast := b.least_le
  have hgreatest := b.le_greatest
  by_cases hkind : kind = .i128
  · exact h hkind
  · have hnarrow : -Int.pow 2 63 ≤ kind.least ∧ kind.greatest < Int.pow 2 64 := by
      cases kind with
      | i128 => exact absurd rfl hkind
      | _ => decide
    omega

theorem decode_null {s : Shape} (h : s.readsNull = false) (a : s.Carrier) :
    decode .null ≠ .ok a := by
  intro hnull
  cases s <;> cases h <;> cases hnull

/-- **Every value that fits round trips.** By induction on the type. -/
theorem roundTrips : (s : Shape) → (a : s.Carrier) → s.Fits a → RoundTrips a
  | value, _, _ => roundTrips_value
  | bool, _, _ => roundTrips_bool
  | int _, _, h => roundTrips_bounded h.bounds.1 h.bounds.2
  | double, _, h => roundTrips_double h
  | char, _, _ => roundTrips_char
  | string, _, _ => roundTrips_string
  | unit, _, _ => roundTrips_unit
  | theme, _, _ => roundTrips_theme
  | figure, _, h => roundTrips_figure h
  | point, _, _ => roundTrips_point
  | option _, none, _ => roundTrips_none
  | option s, some a, h => roundTrips_some (s.roundTrips a (h a rfl).2) (decode_null (h a rfl).1 a)
  | list s, _, h => roundTrips_list fun a ha => s.roundTrips a (h a ha)
  | pair s t, (a, b), h => roundTrips_pair (s.roundTrips a h.1) (t.roundTrips b h.2)
  | textMap s, _, h => roundTrips_map fun e he => ⟨keyRoundTrips_string, s.roundTrips e.2 (h e he)⟩
  | intMap _ s, _, h => roundTrips_map fun e he =>
    ⟨keyRoundTrips_bounded (h e he).1.bounds.1 (h e he).1.bounds.2, s.roundTrips e.2 (h e he).2⟩

end Shape

end DeclSynth.Json
