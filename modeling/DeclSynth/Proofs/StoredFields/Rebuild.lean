import DeclSynth.Proofs.StoredFields.Reading

/-!
# Taking fields apart and putting them together again

The fields of a struct are a list with commas. They are taken one after the other, each with the
comma behind it: a field that is read goes to the stored ones, and any other is put back, and its
comma after it. Putting a value back asserts that a comma is behind the last one, and putting a
comma back that none is (`Punctuated.pushValue`, `Punctuated.pushComma`). A step breaks neither
where a comma closes the list (`step_eq`), and the list stays closed while the fields come with a
comma (`Rebuilt.last_next`); only the last field may come without. So the loop comes to how the
fields are divided (`rebuild_eq`), and never misses punctuation (`rebuild_ne_assertion`).
-/

namespace DeclSynth

/-- A list with commas: the values with a comma behind them, and one without if it is the last. -/
structure Punctuated (α : Type) where
  followed : List α
  last : Option α

namespace Punctuated

variable {α : Type}

/-- A list of values, with a comma behind the last one if `trailing`. -/
def ofList (values : List α) (trailing : Bool) : Punctuated α :=
  if trailing then ⟨values, none⟩ else ⟨values.dropLast, values.getLast?⟩

/-- The values in order. -/
def values (p : Punctuated α) : List α := p.followed ++ p.last.toList

/-- The values in order, each with whether a comma is behind it. -/
def pairs (p : Punctuated α) : List (α × Bool) :=
  p.followed.map (·, true) ++ p.last.toList.map (·, false)

/-- Puts a value behind all others, if a comma is behind the last one. -/
def pushValue (p : Punctuated α) (value : α) : Option (Punctuated α) :=
  if p.last.isNone then some ⟨p.followed, some value⟩ else none

/-- Puts a comma behind the last value, if none is. -/
def pushComma (p : Punctuated α) : Option (Punctuated α) :=
  p.last.map fun value => ⟨p.followed ++ [value], none⟩

theorem ofList_concat (front : List α) (last : α) :
    ofList (front ++ [last]) false = ⟨front, some last⟩ := by
  simp [ofList]

@[simp] theorem values_ofList (values : List α) (trailing : Bool) :
    (ofList values trailing).values = values := by
  unfold ofList Punctuated.values
  cases trailing with
  | true => simp
  | false =>
    rcases List.eq_nil_or_concat values with rfl | ⟨front, last, rfl⟩
    · rfl
    · simp

/-- The fields that a list of them is between curly braces. -/
def fields (p : Punctuated Field) : Fields := .named p.values p.last.isNone

/-- **Fields print the same as a list with commas.** -/
theorem tokens_fields_ofList (fs : List Field) (trailing : Bool) :
    (ofList fs trailing).fields.tokens = (Fields.named fs trailing).tokens := by
  unfold fields
  rw [values_ofList]
  cases trailing with
  | true => rfl
  | false =>
    cases fs with
    | nil => rfl
    | cons f rest => simp [ofList, List.getLast?_cons]

end Punctuated

namespace StoredAccess

open StoredField

/-- Why the loop over the fields stops. -/
inductive RebuildStop where
  /-- A field could not be read. -/
  | failure (failure : Failure)
  /-- Punctuation is missing. -/
  | assertion

/-- What the loop has made of the fields so far. -/
structure Rebuilt where
  kept : Punctuated Field
  stored : List StoredField

/-- Goes on with a list unless it could not be extended. -/
def asserted : Option (Punctuated Field) → Except RebuildStop (Punctuated Field)
  | some p => .ok p
  | none => .error .assertion

/-- Takes the next field, with whether a comma is behind it. -/
def step (store : Expr) (r : Rebuilt) (pair : Field × Bool) : Except RebuildStop Rebuilt := do
  match ← (ofField? store pair.1).mapError .failure with
  | some g => return { r with stored := r.stored ++ [g] }
  | none =>
    let kept ← asserted (r.kept.pushValue pair.1)
    if pair.2 then return { r with kept := ← asserted kept.pushComma }
    else return { r with kept }

/-- Takes all fields of a list. -/
def rebuild (store : Expr) (fields : Punctuated Field) : Except RebuildStop Rebuilt :=
  fields.pairs.foldlM (step store) ⟨⟨[], none⟩, []⟩

variable {store : Expr}

/-- What a list becomes when the field behind it is looked at. -/
def Rebuilt.next (r : Rebuilt) (f : Field) (followed : Bool) : Option StoredField → Rebuilt
  | some g => { r with stored := r.stored ++ [g] }
  | none =>
    if followed then { r with kept := ⟨r.kept.followed ++ [f], none⟩ }
    else { r with kept := ⟨r.kept.followed, some f⟩ }

/-- **A step asserts nothing wrong where a comma closes the list.** -/
theorem step_eq {r : Rebuilt} (h : r.kept.last = none) (pair : Field × Bool) :
    step store r pair =
      ((ofField? store pair.1).mapError .failure).map (r.next pair.1 pair.2) := by
  unfold step
  cases ofField? store pair.1 with
  | error e => rfl
  | ok found =>
    cases found with
    | some g => rfl
    | none =>
      simp only [Except.mapError, Punctuated.pushValue, h, Option.isNone_none]
      cases pair.2 <;> rfl

/-- A list stays closed by a comma while the fields come with one. -/
theorem Rebuilt.last_next {r : Rebuilt} (h : r.kept.last = none) (f : Field)
    (found : Option StoredField) : (r.next f true found).kept.last = none := by
  cases found with
  | some g => exact h
  | none => rfl

/-- What the loop makes of fields that each have a comma behind them. -/
def Rebuilt.nextAll (r : Rebuilt) (fs : List Field) (found : List (Option StoredField)) : Rebuilt :=
  ⟨⟨r.kept.followed ++ fs.filter (!leaves ·), none⟩, r.stored ++ found.filterMap id⟩

/-- **Fields with a comma behind each are divided** into those put back and those read. -/
theorem foldlM_followed (store : Expr) {r : Rebuilt} (h : r.kept.last = none) (fs : List Field) :
    (fs.map (·, true)).foldlM (step store) r =
      ((fs.mapM (ofField? store)).mapError .failure).map (r.nextAll fs) := by
  induction fs generalizing r with
  | nil =>
    obtain ⟨⟨followed, last⟩, stored⟩ := r
    cases h
    simp [Rebuilt.nextAll, Except.mapError, Except.map, pure, Except.pure]
  | cons f rest ih =>
    rw [List.map_cons, List.foldlM_cons, step_eq h, List.mapM_cons]
    cases hfound : ofField? store f with
    | error e => rfl
    | ok found =>
      have hnext := ih (Rebuilt.last_next h f found)
      change (rest.map (·, true)).foldlM (step store) (r.next f true found) = _
      rw [hnext]
      have hleaves := isSome_of_ofField? hfound
      cases hothers : rest.mapM (ofField? store) with
      | error e => rfl
      | ok others =>
        refine congrArg Except.ok ?_
        cases found <;> simp [Rebuilt.nextAll, Rebuilt.next, ← hleaves]

/-- **The loop divides the fields** into those put back, in order, and those read. A comma is
behind the last field put back if one was behind the last field, or if that one is not put back. -/
theorem rebuild_eq (fs : List Field) (trailing : Bool) :
    rebuild store (.ofList fs trailing) =
      ((fs.mapM (ofField? store)).mapError .failure).map fun found =>
        ⟨.ofList (fs.filter (!leaves ·)) (trailing || (fs.map leaves).getLast?.getD false),
          found.filterMap id⟩ := by
  unfold rebuild Punctuated.pairs
  cases trailing with
  | true =>
    simp only [Punctuated.ofList, if_true, Option.toList_none, List.map_nil, List.append_nil,
      Bool.true_or]
    exact foldlM_followed store (r := ⟨⟨[], none⟩, []⟩) rfl fs
  | false =>
    rcases List.eq_nil_or_concat fs with rfl | ⟨front, last, rfl⟩
    · rfl
    -- all fields but the last one have a comma behind them
    · have hfront := foldlM_followed store (r := ⟨⟨[], none⟩, []⟩) rfl front
      rw [List.concat_eq_append, Punctuated.ofList_concat]
      simp only [Option.toList_some, List.map_cons, List.map_nil, List.foldlM_append, hfront,
        List.mapM_append, List.mapM_cons, List.mapM_nil]
      cases hfound : front.mapM (ofField? store) with
      | error e => rfl
      | ok found =>
        change List.foldlM (step store) (Rebuilt.nextAll ⟨⟨[], none⟩, []⟩ front found)
          [(last, false)] = _
        rw [List.foldlM_cons, step_eq rfl]
        cases hlast : ofField? store last with
        | error e => rfl
        | ok stored =>
          have hleaves := isSome_of_ofField? hlast
          refine congrArg Except.ok ?_
          cases stored <;>
            simp [Rebuilt.nextAll, Rebuilt.next, Punctuated.ofList, ← hleaves]

/-- **Fields that are divided come out of the loop**, those that stay with the commas they print. -/
theorem exists_kept_of_divide {fs : List Field} {trailing : Bool} {fields : Fields}
    {stored : List StoredField} (h : divide store fs trailing = .ok (fields, stored)) :
    ∃ kept : Punctuated Field, rebuild store (.ofList fs trailing) = .ok ⟨kept, stored⟩ ∧
      kept.values = fields.toList ∧ kept.fields.tokens = fields.tokens := by
  obtain ⟨found, hfound, -⟩ := except_bind_eq_ok.1 h
  rw [divide_eq_ok hfound] at h
  cases h
  rw [rebuild_eq, hfound]
  exact ⟨_, rfl, Punctuated.values_ofList _ _, Punctuated.tokens_fields_ofList _ _⟩

/-- **The loop never misses punctuation**, wherever the marked fields are and whether or not a
comma is behind the last one. -/
theorem rebuild_ne_assertion (fs : List Field) (trailing : Bool) :
    rebuild store (.ofList fs trailing) ≠ .error .assertion := by
  rw [rebuild_eq]
  cases fs.mapM (ofField? store) <;> exact nofun

end StoredAccess

end DeclSynth
