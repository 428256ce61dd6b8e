import DeclSynth.Proofs.Placeless
import DeclSynth.Proofs.Syntax.Unplaced
import Mathlib.Data.List.Find
import Mathlib.Data.List.Nodup

/-!
# The order of arguments

Two argument lists are `Permuted` if they start with the same bare value, or with none,
and give the same values to the same labels otherwise, in any order and wherever they
are written. A list is accepted for what its labels are and not for their order
(`validate_eq_ok_iff`). No label is given twice in an accepted list, so what is looked up
there does not depend on the order either (`Permuted.get?`), nor does anything that is
made of it.
-/

namespace DeclSynth

/-- What an argument says: its label as it is compared, a raw name like any other, and its value
without places. -/
def Argument.content (a : Argument) : Option String × Expr := (a.key?, a.value.unplaced)

namespace ArgumentList

variable {spec : ArgumentSpec} {seen after : List String} {l l₁ l₂ : ArgumentList}

/-! ## Acceptance -/

/-- The arguments behind a bare value at the beginning. -/
def rest (l : ArgumentList) : List Argument :=
  match l.arguments with
  | ⟨none, _⟩ :: rest => rest
  | arguments => arguments

/-- What is asked of a list: of whether it starts with a bare value, and of the labels of its other
arguments. -/
structure Fits (spec : ArgumentSpec) (bare : Bool) (keys : List (Option String)) : Prop where
  labelled : none ∉ keys
  known : ∀ key, some key ∈ keys → key ∈ spec.labels
  nodup : keys.Nodup
  allowed : bare = true → spec.positional ≠ .forbidden
  needed : ∀ what, spec.positional = .required what → bare = true
  present : ∀ key ∈ spec.required, some key ∈ keys

theorem checkArgument_eq_ok_iff {a : Argument} :
    checkArgument spec false seen a = .ok after ↔
      ∃ key, a.key? = some key ∧ key ∈ spec.labels ∧ key ∉ seen ∧ after = key :: seen := by
  obtain ⟨label, value⟩ := a
  cases label with
  | none => simp [checkArgument, Argument.key?]
  | some label =>
    by_cases hknown : label.plainText ∈ spec.labels
    · by_cases hseen : label.plainText ∈ seen
      · simp [checkArgument, Argument.key?, hknown, hseen]
      · simp [checkArgument, Argument.key?, hknown, hseen, eq_comm]
    · simp [checkArgument, Argument.key?, hknown]

theorem checkArguments_cons {first : Bool} {a : Argument} {as : List Argument} :
    checkArguments spec first seen (a :: as) = .ok after ↔
      ∃ between, checkArgument spec first seen a = .ok between ∧
        checkArguments spec false between as = .ok after := by
  rw [checkArguments]
  cases checkArgument spec first seen a <;> simp

/-- **Labelled arguments pass for their labels**: all of them known, and none given before. -/
theorem checkArguments_eq_ok_iff {as : List Argument} :
    checkArguments spec false seen as = .ok after ↔
      none ∉ as.map Argument.key? ∧
      (∀ key, some key ∈ as.map Argument.key? → key ∈ spec.labels ∧ key ∉ seen) ∧
      (as.map Argument.key?).Nodup ∧ after = (as.filterMap Argument.key?).reverse ++ seen := by
  -- the labels seen so far grow with each argument, so the claim is about any of them
  induction as generalizing seen with
  | nil => simp [checkArguments, eq_comm]
  | cons a rest ih =>
    simp only [checkArguments_cons, checkArgument_eq_ok_iff, ih, List.map_cons, List.nodup_cons]
    constructor
    · rintro ⟨_, ⟨key, hkey, hknown, hnew, rfl⟩, hlabelled, hrest, hnodup, rfl⟩
      refine ⟨by simp [hkey, hlabelled], ?_, ⟨?_, hnodup⟩, ?_⟩
      · rintro other hother
        rw [hkey, List.mem_cons, Option.some.injEq] at hother
        obtain rfl | hother := hother
        · exact ⟨hknown, hnew⟩
        · obtain ⟨hlabel, hfresh⟩ := hrest other hother
          exact ⟨hlabel, fun hseen => hfresh (List.mem_cons_of_mem _ hseen)⟩
      · rw [hkey]
        exact fun hagain => (hrest key hagain).2 List.mem_cons_self
      · rw [List.filterMap_cons_some hkey, List.reverse_cons, List.append_assoc]
        rfl
    · rintro ⟨hlabelled, hkeys, ⟨hnew, hnodup⟩, rfl⟩
      rw [List.mem_cons, not_or] at hlabelled
      obtain ⟨hhead, htail⟩ := hlabelled
      obtain ⟨key, hkey⟩ := Option.ne_none_iff_exists'.1 (Ne.symm hhead)
      rw [hkey] at hkeys hnew
      obtain ⟨hknown, hfresh⟩ := hkeys key List.mem_cons_self
      refine ⟨_, ⟨key, hkey, hknown, hfresh, rfl⟩, htail, fun other hother => ?_, hnodup, ?_⟩
      · obtain ⟨hlabel, hseen⟩ := hkeys other (List.mem_cons_of_mem _ hother)
        refine ⟨hlabel, List.not_mem_cons_of_ne_of_not_mem ?_ hseen⟩
        rintro rfl
        exact hnew hother
      · rw [List.filterMap_cons_some hkey, List.reverse_cons, List.append_assoc]
        rfl

theorem checkPresence_eq_ok_iff :
    checkPresence spec l seen = .ok () ↔
      (∀ what, spec.positional = .required what → l.positional.isSome = true) ∧
      ∀ key ∈ spec.required, key ∈ seen := by
  have hfind : spec.required.find? (!seen.contains ·) = none ↔
      ∀ key ∈ spec.required, key ∈ seen := by
    simp
  rw [← hfind]
  unfold checkPresence
  cases hpositional : spec.positional with
  | required what =>
    cases l.positional with
    | none => simp
    | some value => cases spec.required.find? (!seen.contains ·) <;> simp
  | _ => cases spec.required.find? (!seen.contains ·) <;> simp

/-- A bare value passes at the beginning, if one may stand there at all. -/
theorem checkArgument_bare {value : Expr} :
    checkArgument spec true seen ⟨none, value⟩ = .ok after ↔
      spec.positional ≠ .forbidden ∧ after = seen := by
  simp only [checkArgument, Bool.not_true, Bool.false_or, beq_iff_eq]
  split
  next hforbidden => simp [hforbidden]
  next hallowed => simp [hallowed, eq_comm]

/-- What stands behind a bare value at the beginning is checked as labelled arguments are. -/
theorem checkArguments_eq_ok_iff_rest :
    checkArguments spec true seen l.arguments = .ok after ↔
      (l.positional.isSome = true → spec.positional ≠ .forbidden) ∧
      checkArguments spec false seen l.rest = .ok after := by
  unfold positional rest
  rcases l.arguments with _ | ⟨⟨_ | label, value⟩, rest⟩
  · simp [checkArguments]
  · simp only [checkArguments_cons, checkArgument_bare, Option.isSome_some, forall_const]
    constructor
    · rintro ⟨_, ⟨hallowed, rfl⟩, hrest⟩
      exact ⟨hallowed, hrest⟩
    · rintro ⟨hallowed, hrest⟩
      exact ⟨seen, ⟨hallowed, rfl⟩, hrest⟩
  · simp [checkArguments, checkArgument]

/-- **A list is accepted for its labels**, and for whether it starts with a bare value. -/
theorem validate_eq_ok_iff :
    l.validate spec = .ok () ↔ Fits spec l.positional.isSome (l.rest.map Argument.key?) := by
  have hvalidate : l.validate spec = .ok () ↔
      ∃ seen, checkArguments spec true [] l.arguments = .ok seen ∧
        checkPresence spec l seen = .ok () := by
    unfold validate
    cases checkArguments spec true [] l.arguments <;> simp
  rw [hvalidate]
  simp only [checkArguments_eq_ok_iff_rest, checkArguments_eq_ok_iff, checkPresence_eq_ok_iff]
  constructor
  · rintro ⟨_, ⟨hallowed, hlabelled, hknown, hnodup, rfl⟩, hneeded, hpresent⟩
    exact ⟨hlabelled, fun key hkey => (hknown key hkey).1, hnodup, hallowed, hneeded,
      fun key hkey => by simpa using hpresent key hkey⟩
  · intro h
    exact ⟨_, ⟨h.allowed, h.labelled, fun key hkey => ⟨h.known key hkey, List.not_mem_nil⟩,
      h.nodup, rfl⟩, h.needed, fun key hkey => by simpa using h.present key hkey⟩

/-! ## Reading values -/

/-- A value that has to be a path. -/
def asPath (label : String) (value : Expr) : Except Failure (Option Path) :=
  match pathOf? value with
  | some path => .ok (some path)
  | none => .error ((ExpandError.invalidArgument label "a path").at value.span)

/-- A path that has to be a name, where there is one. -/
def asIdent (label : String) : Option Path → Except Failure (Option Ident)
  | none => .ok none
  | some path =>
    match path.ident? with
    | some name => .ok (some name)
    | none => .error ((ExpandError.invalidArgument label "an identifier").at path.span)

/-- A value that has to be a string literal. -/
def asString (label : String) (value : Expr) : Except Failure (Option (String × Span)) :=
  (expectString value label).map some

/-- A value that has to be a list of names. -/
def asIdents (label : String) (value : Expr) : Except Failure (List Ident) :=
  match value.outline with
  | .array elems => elems.mapM (elementOf label)
  | _ =>
    .error ((ExpandError.invalidArgument label
      "a list of identifiers such as `[A, B]`").at value.span)

variable (label : String)

theorem path_eq (l : ArgumentList) :
    l.path label = (l.value? label).elim (.ok none) (asPath label) := by
  unfold path
  cases l.value? label <;> rfl

theorem ident_eq (l : ArgumentList) : l.ident label = l.path label >>= asIdent label := by
  unfold ident
  rcases l.path label with f | _ | path <;> rfl

theorem string_eq (l : ArgumentList) :
    l.string label = (l.value? label).elim (.ok none) (asString label) := by
  unfold string
  cases l.value? label <;> rfl

theorem identList_eq (l : ArgumentList) :
    l.identList label = (l.value? label).elim (.ok []) (asIdents label) := by
  unfold identList
  cases l.value? label <;> rfl

theorem asPath_unplaced (e : Expr) :
    placeless (Option.map Path.unplaced) (asPath label e) =
      placeless id (asPath label e.unplaced) := by
  simp only [asPath, pathOf?_unplaced]
  cases pathOf? e <;> rfl

theorem asIdent_unplaced (p : Option Path) :
    placeless (Option.map Ident.unplaced) (asIdent label p) =
      placeless id (asIdent label (p.map Path.unplaced)) := by
  cases p with
  | none => rfl
  | some p =>
    simp only [asIdent, Option.map_some, Path.ident?_unplaced]
    cases p.ident? <;> rfl

theorem asString_unplaced (e : Expr) :
    placeless (Option.map Prod.fst) (asString label e) =
      placeless (Option.map Prod.fst) (asString label e.unplaced) := by
  simp only [asString, expectString, Expr.outline_unplaced]
  cases e.outline with
  | literal text span =>
    simp only [Outline.unplaced]
    split <;> rfl
  | _ => rfl

theorem elementOf_unplaced (e : Expr) :
    placeless Ident.unplaced (elementOf label e) = placeless id (elementOf label e.unplaced) := by
  have hname : (pathOf? e.unplaced).bind Path.ident? =
      ((pathOf? e).bind Path.ident?).map Ident.unplaced := by
    rw [pathOf?_unplaced]
    cases pathOf? e with
    | none => rfl
    | some p => exact p.ident?_unplaced
  unfold elementOf
  rw [hname]
  cases (pathOf? e).bind Path.ident? <;> rfl

theorem asIdents_unplaced (e : Expr) :
    placeless (List.map Ident.unplaced) (asIdents label e) =
      placeless (List.map id) (asIdents label e.unplaced) := by
  simp only [asIdents, Expr.outline_unplaced]
  cases e.outline with
  | array elems =>
    simp only [Outline.unplaced, unplacedExprs_eq]
    refine placeless_mapM (List.forall₂_map_right_iff.2 (List.forall₂_same.2 fun e _ => ?_))
    exact elementOf_unplaced label e
  | _ => rfl

/-! ## Permuted lists -/

/-- Whether two lists start with the same bare value, or with none, and have the same arguments
otherwise, in any order. -/
structure Permuted (l₁ l₂ : ArgumentList) : Prop where
  positional : l₁.positional.map Expr.unplaced = l₂.positional.map Expr.unplaced
  rest : (l₁.rest.map Argument.content).Perm (l₂.rest.map Argument.content)

/-- The argument under a label stands behind any bare value at the beginning. -/
theorem get?_eq_rest (l : ArgumentList) (label : String) :
    l.get? label = l.rest.find? (·.key? == some label) := by
  unfold get? rest
  rcases l.arguments with _ | ⟨⟨_ | label, value⟩, rest⟩ <;> rfl

theorem content_get? (l : ArgumentList) (label : String) :
    (l.get? label).map Argument.content =
      (l.rest.map Argument.content).find? (·.1 == some label) := by
  rw [get?_eq_rest, List.find?_map]
  rfl

namespace Permuted

theorem symm (h : Permuted l₁ l₂) : Permuted l₂ l₁ := ⟨h.positional.symm, h.rest.symm⟩

theorem keys (h : Permuted l₁ l₂) :
    (l₁.rest.map Argument.key?).Perm (l₂.rest.map Argument.key?) := by
  simpa only [List.map_map, Function.comp_def, Argument.content] using h.rest.map Prod.fst

theorem isSome_positional (h : Permuted l₁ l₂) :
    l₁.positional.isSome = l₂.positional.isSome := by
  simpa only [Option.isSome_map] using congrArg Option.isSome h.positional

theorem fits (h : Permuted l₁ l₂)
    (hfits : Fits spec l₁.positional.isSome (l₁.rest.map Argument.key?)) :
    Fits spec l₂.positional.isSome (l₂.rest.map Argument.key?) where
  labelled := mt h.keys.mem_iff.2 hfits.labelled
  known key hkey := hfits.known key (h.keys.mem_iff.2 hkey)
  nodup := h.keys.nodup_iff.1 hfits.nodup
  allowed := h.isSome_positional ▸ hfits.allowed
  needed := h.isSome_positional ▸ hfits.needed
  present key hkey := h.keys.mem_iff.1 (hfits.present key hkey)

/-- **Both lists are accepted, or both are rejected.** -/
theorem validate_iff (h : Permuted l₁ l₂) (spec : ArgumentSpec) :
    l₁.validate spec = .ok () ↔ l₂.validate spec = .ok () := by
  rw [validate_eq_ok_iff, validate_eq_ok_iff]
  exact ⟨h.fits, h.symm.fits⟩

/-! ## Looking up in permuted lists -/

section Lookup

variable (h : Permuted l₁ l₂) (hvalid : l₁.validate spec = .ok ()) (label : String)

include h hvalid

/-- **A label has the same argument in both lists**, as it is given once. -/
theorem get? : (l₁.get? label).map Argument.content = (l₂.get? label).map Argument.content := by
  have hnodup : ((l₁.rest.map Argument.content).map Prod.fst).Nodup := by
    simpa only [List.map_map, Function.comp_def, Argument.content] using
      (validate_eq_ok_iff.1 hvalid).nodup
  rw [content_get?, content_get?]
  -- at most one argument has the label, so the first one is the only one
  refine List.find?_eq_find?_of_perm h.rest fun x hx y hy => ?_
  refine List.inj_on_of_nodup_map hnodup hx.1 hy.1 ?_
  exact (eq_of_beq hx.2).trans (eq_of_beq hy.2).symm

theorem value? : (l₁.value? label).map Expr.unplaced = (l₂.value? label).map Expr.unplaced := by
  have hget := congrArg (Option.map Prod.snd) (h.get? hvalid label)
  simpa only [Option.map_map, Function.comp_def, Argument.content, ArgumentList.value?] using hget

/-- What is read from a value, places aside, is read from the value in either list. -/
theorem placeless_value? {α β : Type} {f f' : α → β} {absent : Except Failure α}
    {read : Expr → Except Failure α}
    (hread : ∀ e, placeless f (read e) = placeless f' (read e.unplaced)) :
    placeless f ((l₁.value? label).elim absent read) =
      placeless f ((l₂.value? label).elim absent read) := by
  have helim (l : ArgumentList) : placeless f ((l.value? label).elim absent read) =
      ((l.value? label).map Expr.unplaced).elim (placeless f absent)
        fun e => placeless f' (read e) := by
    cases l.value? label with
    | none => rfl
    | some e => exact hread e
  rw [helim, helim, h.value? hvalid label]

theorem path : placeless (Option.map Path.unplaced) (l₁.path label) =
    placeless (Option.map Path.unplaced) (l₂.path label) := by
  rw [path_eq, path_eq]
  exact h.placeless_value? hvalid label (asPath_unplaced label)

theorem ident : placeless (Option.map Ident.unplaced) (l₁.ident label) =
    placeless (Option.map Ident.unplaced) (l₂.ident label) := by
  rw [ident_eq, ident_eq]
  refine placeless_bind (h.path hvalid label) fun p q hpq => ?_
  rw [asIdent_unplaced, asIdent_unplaced, hpq]

theorem string : placeless (Option.map Prod.fst) (l₁.string label) =
    placeless (Option.map Prod.fst) (l₂.string label) := by
  rw [string_eq, string_eq]
  exact h.placeless_value? hvalid label (asString_unplaced label)

theorem identList : placeless (List.map Ident.unplaced) (l₁.identList label) =
    placeless (List.map Ident.unplaced) (l₂.identList label) := by
  rw [identList_eq, identList_eq]
  exact h.placeless_value? hvalid label (asIdents_unplaced label)

end Lookup

end Permuted

end ArgumentList

end DeclSynth
