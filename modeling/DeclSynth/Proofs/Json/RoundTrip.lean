import DeclSynth.Json.Codec.Sample
import DeclSynth.Proofs.Json.IntegerKey
import DeclSynth.Proofs.SortedMap
import Mathlib.Data.List.Nodup
import Mathlib.Data.List.Perm.Basic
import Mathlib.Data.List.Permutation

/-!
# What is written is read back

A value round trips if it can be written as JSON and what is written is read as the same
value. There is one law for each kind of type: plain types round trip but for numbers that
JSON has no place for, and a list, a pair, a map (`roundTrips_map`) or a record does if
what it holds does.
-/

namespace DeclSynth.Json

variable {α β κ ε δ : Type} {kind : IntKind}

/-- What is written of a value is read as this value. -/
def RoundTrips [Encode α] [Decode α] (a : α) : Prop :=
  ∃ v, encode a = .ok v ∧ decode v = .ok a

/-- What is written of a key is read as this key. -/
def KeyRoundTrips [EncodeKey κ] [DecodeKey κ] (key : κ) : Prop :=
  ∃ text, encodeKey key = .ok text ∧ decodeKey text = .ok key

/-! ## Plain types -/

theorem roundTrips_value {v : Value} : RoundTrips v := ⟨v, rfl, rfl⟩

theorem roundTrips_bool {b : Bool} : RoundTrips b := ⟨.bool b, rfl, rfl⟩

theorem roundTrips_string {text : String} : RoundTrips text := ⟨.string text, rfl, rfl⟩

theorem roundTrips_unit {u : Unit} : RoundTrips u := ⟨.null, rfl, rfl⟩

theorem roundTrips_char {c : Char} : RoundTrips c := by
  refine ⟨.string c.toString, rfl, ?_⟩
  change charOf c.toString = .ok c
  simp [charOf, Char.toString]

theorem roundTrips_double {x : Double} (h : x.isFinite = true) : RoundTrips x := by
  refine ⟨.float x, ?_, rfl⟩
  change Except.ok (Value.ofDouble x) = _
  rw [Value.ofDouble, if_pos h]

theorem decode_int_val {b : Bounded kind} : decode (.int b.val) = .ok b := by
  change Bounded.ofInt kind b.val = .ok b
  rw [Bounded.ofInt, Bounded.ofInt?_val]

theorem roundTrips_bounded {b : Bounded kind} (hleast : -Int.pow 2 63 ≤ b.val)
    (hgreatest : b.val < Int.pow 2 64) : RoundTrips b :=
  ⟨.int b.val, if_pos ⟨hleast, hgreatest⟩, decode_int_val⟩

theorem roundTrips_none [Encode α] [Decode α] : RoundTrips (none : Option α) := ⟨.null, rfl, rfl⟩

/-- No value of the type may be read from `null`, which says that there is none. -/
theorem roundTrips_some [Encode α] [Decode α] {a : α} (ha : RoundTrips a)
    (hnull : decode .null ≠ .ok a) : RoundTrips (some a) := by
  obtain ⟨v, hencode, hdecode⟩ := ha
  refine ⟨v, hencode, ?_⟩
  cases v with
  | null => exact absurd hdecode hnull
  | _ => exact congrArg (some <$> ·) hdecode

/-! ## Lists and pairs -/

/-- Elements that are written and read back one by one are so together. -/
theorem exists_mapM {f : α → Except ε β} {g : β → Except δ α} {l : List α}
    (h : ∀ a ∈ l, ∃ b, f a = .ok b ∧ g b = .ok a) :
    ∃ l', l.mapM f = .ok l' ∧ List.Forall₂ (fun b a => g b = .ok a) l' l := by
  induction l with
  | nil => exact ⟨[], rfl, .nil⟩
  | cons a l ih =>
    obtain ⟨b, hf, hg⟩ := h a List.mem_cons_self
    obtain ⟨l', hl, hback⟩ := ih fun x hx => h x (List.mem_cons_of_mem _ hx)
    refine ⟨b :: l', ?_, .cons hg hback⟩
    rw [List.mapM_cons, hf, hl]
    rfl

theorem mapM_eq_ok {g : β → Except δ α} {l' : List β} {l : List α}
    (h : List.Forall₂ (fun b a => g b = .ok a) l' l) : l'.mapM g = .ok l := by
  induction h with
  | nil => rfl
  | cons hg _ ih =>
    rw [List.mapM_cons, hg, ih]
    rfl

theorem roundTrips_list [Encode α] [Decode α] {l : List α} (h : ∀ a ∈ l, RoundTrips a) :
    RoundTrips l := by
  obtain ⟨l', hencode, hdecode⟩ := exists_mapM (f := encode) (g := decode) h
  refine ⟨.array l', ?_, mapM_eq_ok hdecode⟩
  change Value.array <$> l.mapM encode = _
  rw [hencode]
  rfl

section Pair

variable {a : α} {b : β} {v w : Value}

theorem encodeTwo_eq_ok [Encode α] [Encode β] (ha : encode a = .ok v) (hb : encode b = .ok w) :
    encodeTwo a b = .ok (.array [v, w]) := by
  rw [encodeTwo, ha, hb]
  rfl

theorem decodeTwo_eq_ok [Decode α] [Decode β] {what : String} (ha : decode v = .ok a)
    (hb : decode w = .ok b) : decodeTwo what [v, w] = .ok (a, b) := by
  simp only [decodeTwo, ha, hb]
  rfl

theorem roundTrips_pair [Encode α] [Decode α] [Encode β] [Decode β] (ha : RoundTrips a)
    (hb : RoundTrips b) : RoundTrips (a, b) := by
  obtain ⟨v, hv, hav⟩ := ha
  obtain ⟨w, hw, hbw⟩ := hb
  exact ⟨.array [v, w], encodeTwo_eq_ok hv hw, decodeTwo_eq_ok hav hbw⟩

end Pair

/-! ## Maps -/

theorem keyRoundTrips_string {text : String} : KeyRoundTrips text := ⟨text, rfl, rfl⟩

theorem keyRoundTrips_bounded {b : Bounded kind} (hleast : -Int.pow 2 63 ≤ b.val)
    (hgreatest : b.val < Int.pow 2 64) : KeyRoundTrips b :=
  ⟨toString b.val, rfl, decodeIntKey_toString hleast hgreatest⟩

instance : Std.LawfulEqOrd (Bounded kind) where
  eq_of_compare {a b} h := by
    have hval : a.val = b.val := Std.LawfulEqOrd.eq_of_compare (α := Int) h
    cases a
    cases b
    cases hval
    rfl

section Map

variable [Decode α] [DecodeKey κ]

/-- An entry is read key first. -/
theorem decodeKey_of_decodeEntry {written : String × Value} {e : κ × α}
    (h : decodeEntry written = .ok e) : decodeKey written.1 = .ok e.1 := by
  unfold decodeEntry at h
  cases hkey : decodeKey (κ := κ) written.1 with
  | error cause => rw [hkey] at h; cases h
  | ok key =>
    cases hvalue : decode (α := α) written.2 with
    | error cause => rw [hkey, hvalue] at h; cases h
    | ok a => rw [hkey, hvalue] at h; cases h; rfl

/-- Different keys have different texts, since a text is read as one key. -/
theorem nodup_texts {written : List (String × Value)} {entries : List (κ × α)}
    (h : List.Forall₂ (fun w e => decodeEntry w = .ok e) written entries)
    (hnodup : (entries.map (·.1)).Nodup) : (written.map (·.1)).Nodup := by
  have hkeys : (written.map (·.1)).map (decodeKey (κ := κ)) = (entries.map (·.1)).map .ok := by
    clear hnodup
    induction h with
    | nil => rfl
    | cons hentry _ ih =>
      rw [List.map_cons, List.map_cons, ih, decodeKey_of_decodeEntry hentry]
      rfl
  refine List.Nodup.of_map (decodeKey (κ := κ)) ?_
  rw [hkeys]
  exact hnodup.map fun _ _ h => by cases h; rfl

variable [Encode α] [EncodeKey κ]

theorem exists_encodeEntry {e : κ × α} (hkey : KeyRoundTrips e.1) (hvalue : RoundTrips e.2) :
    ∃ written, encodeEntry e = .ok written ∧ decodeEntry written = .ok e := by
  obtain ⟨text, htext, hkeyback⟩ := hkey
  obtain ⟨v, hv, hvalueback⟩ := hvalue
  refine ⟨(text, v), ?_, ?_⟩
  · rw [encodeEntry, htext, hv]
    rfl
  · rw [decodeEntry, hkeyback, hvalueback]
    rfl

variable [Ord κ] [Std.TransOrd κ] [Std.LawfulEqOrd κ]

/-- **A map round trips if its keys and values do.** The object lists the entries in the order of
the key texts, which need not be that of the keys. -/
theorem roundTrips_map {m : SortedMap κ α}
    (h : ∀ e ∈ m.entries, KeyRoundTrips e.1 ∧ RoundTrips e.2) : RoundTrips m := by
  obtain ⟨written, hencode, hback⟩ := exists_mapM (f := encodeEntry) (g := decodeEntry)
    fun e he => exists_encodeEntry (h e he).1 (h e he).2
  have hnodup : (written.map (·.1)).Nodup := nodup_texts hback m.nodup_keys
  obtain ⟨entries, hdecode, hperm⟩ := List.perm_comp_forall₂ (SortedMap.ofList_perm hnodup) hback
  refine ⟨.ofEntries written, ?_, ?_⟩
  · change Value.ofEntries <$> m.entries.mapM encodeEntry = _
    rw [hencode]
    rfl
  · change SortedMap.ofList <$> (SortedMap.ofList written).entries.mapM decodeEntry = _
    rw [mapM_eq_ok hdecode]
    exact congrArg Except.ok (SortedMap.ofList_eq_of_perm hperm)

end Map

/-! ## Records -/

section Record

variable {first second : String} {a b : α} {v w : Value}

theorem field_cons_self {found : List (String × α)} :
    field first ((first, a) :: found) = .ok a := by
  simp [field]

theorem field_cons_of_ne {found : List (String × α)} (hne : first ≠ second) :
    field first ((second, b) :: found) = field first found := by
  simp [field, hne.symm]

theorem encodeTwoFields_eq_ok [Encode α] (ha : encode a = .ok v) (hb : encode b = .ok w) :
    encodeTwoFields first second a b = .ok (.ofEntries [(first, v), (second, w)]) := by
  rw [encodeTwoFields, ha, hb]
  rfl

variable [Decode α]

/-- The two fields of a record are found in either order. -/
theorem decodeTwoFields_eq_ok (hne : first ≠ second) (ha : decode v = .ok a)
    (hb : decode w = .ok b) :
    decodeTwoFields first second (SortedMap.ofList [(first, v), (second, w)]).entries =
      .ok (a, b) := by
  have hfirst : decodeEntry (κ := String) (first, v) = .ok (first, a) := by
    rw [decodeEntry, ha]
    rfl
  have hsecond : decodeEntry (κ := String) (second, w) = .ok (second, b) := by
    rw [decodeEntry, hb]
    rfl
  have hperm := SortedMap.ofList_perm (l := [(first, v), (second, w)]) (by simpa using hne)
  rcases List.perm_pair.1 hperm with hentries | hentries
  · have hfound : decodeFields [first, second] [(first, v), (second, w)] =
        .ok [(first, a), (second, b)] := by
      simp only [decodeFields, List.filter, List.contains_cons, beq_self_eq_true, Bool.true_or,
        Bool.or_true, List.mapM_cons, hfirst, hsecond]
      rfl
    rw [hentries, decodeTwoFields, hfound]
    change (do return (← field first [(first, a), (second, b)], ← field second _)) = _
    rw [field_cons_self, field_cons_of_ne hne.symm, field_cons_self]
    rfl
  · have hfound : decodeFields [first, second] [(second, w), (first, v)] =
        .ok [(second, b), (first, a)] := by
      simp only [decodeFields, List.filter, List.contains_cons, beq_self_eq_true, Bool.true_or,
        Bool.or_true, List.mapM_cons, hfirst, hsecond]
      rfl
    rw [hentries, decodeTwoFields, hfound]
    change (do return (← field first [(second, b), (first, a)], ← field second _)) = _
    rw [field_cons_of_ne hne, field_cons_self, field_cons_self]
    rfl

end Record

/-! ## The sample types -/

theorem encode_i64 {b : Bounded .i64} : encode b = .ok (.int b.val) := by
  have hleast := b.least_le
  have hgreatest := b.le_greatest
  refine if_pos ⟨hleast, ?_⟩
  have hlimit : IntKind.greatest .i64 < Int.pow 2 64 := by decide
  omega

theorem roundTrips_point {p : Point} : RoundTrips p := by
  obtain ⟨x, y⟩ := p
  refine ⟨_, encodeTwoFields_eq_ok encode_i64 encode_i64, ?_⟩
  change (decodeTwoFields "x" "y" _ >>= fun xy => pure (Point.mk xy.1 xy.2)) = _
  rw [decodeTwoFields_eq_ok (by decide) decode_int_val decode_int_val]
  rfl

theorem roundTrips_theme {t : Theme} : RoundTrips t := by
  cases t with
  | light => exact ⟨_, rfl, rfl⟩
  | dark => exact ⟨_, rfl, rfl⟩

theorem roundTrips_figure {f : Figure}
    (hfinite : ∀ radius, f = .circle radius → radius.isFinite = true) : RoundTrips f := by
  cases f with
  | empty => exact ⟨_, rfl, rfl⟩
  | circle radius =>
    obtain ⟨v, hencode, hdecode⟩ := roundTrips_double (hfinite radius rfl)
    refine ⟨tagged "Circle" v, ?_, ?_⟩
    · change tagged "Circle" <$> encode radius = _
      rw [hencode]
      rfl
    · change (do return Figure.circle (← decode v)) = _
      rw [hdecode]
      rfl
  | pair a b =>
    refine ⟨tagged "Pair" (.array [.int a.val, .int b.val]), ?_, ?_⟩
    · change tagged "Pair" <$> encodeTwo a b = _
      rw [encodeTwo_eq_ok encode_i64 encode_i64]
      rfl
    · change (decodeTwo _ [_, _] >>= fun ab => pure (Figure.pair ab.1 ab.2)) = _
      rw [decodeTwo_eq_ok decode_int_val decode_int_val]
      rfl
  | rect w h =>
    refine ⟨tagged "Rect" (.ofEntries [("w", .int w.val), ("h", .int h.val)]), ?_, ?_⟩
    · change tagged "Rect" <$> encodeTwoFields "w" "h" w h = _
      rw [encodeTwoFields_eq_ok encode_i64 encode_i64]
      rfl
    · change (decodeTwoFields "w" "h" _ >>= fun wh => pure (Figure.rect wh.1 wh.2)) = _
      rw [decodeTwoFields_eq_ok (by decide) decode_int_val decode_int_val]
      rfl

end DeclSynth.Json
