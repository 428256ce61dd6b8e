import DeclSynth.Expansion.AsyncPeer.Lifetime

/-!
# Places of lifetimes

All places of a type where a lifetime is written, or may be, are listed from left to right
(`Ty.places`): each reference sign and each lifetime, also those that an expression mentions,
and also inside function pointers and inside the parenthesized arguments of function traits,
which bind lifetimes of their own.
The search for a lifetime that is left out never goes there, and finds the first place
outside of them where one is missing or written `'_` (`Ty.elided?_first`).
-/

namespace DeclSynth

/-! ## Places -/

/-- What stands at a place. -/
inductive LifetimeMark where
  /-- The sign of a reference, with the lifetime behind it if there is one. -/
  | sign (lifetime : Option Lifetime)
  | lifetime (lifetime : Lifetime)

/-- A place of a type; `inside` tells whether it is inside a function pointer or the parenthesized
arguments of a function trait. -/
structure LifetimePlace where
  mark : LifetimeMark
  inside : Bool
  span : Span

namespace LifetimePlace

/-- Whether a lifetime is left out: there is none behind a reference sign, or it is `'_`. -/
def LeavesOut (p : LifetimePlace) : Prop :=
  match p.mark with
  | .sign lifetime => lifetime = none
  | .lifetime l => l.name = "_"

instance (p : LifetimePlace) : Decidable p.LeavesOut := by
  unfold LeavesOut
  split <;> infer_instance

/-- Whether a lifetime is left out that nothing around the place binds. -/
def Free (p : LifetimePlace) : Prop := p.LeavesOut ∧ p.inside = false

instance (p : LifetimePlace) : Decidable p.Free := inferInstanceAs (Decidable (_ ∧ _))

end LifetimePlace

/-- The place of a lifetime. -/
def Lifetime.place (inside : Bool) (l : Lifetime) : LifetimePlace := ⟨.lifetime l, inside, l.span⟩

/-- The places of an entry of a `use<..>` bound. -/
def Captured.places (inside : Bool) : Captured → List LifetimePlace
  | .lifetime l => [l.place inside]
  | .param _ => []

mutual

/-- The places of a type, from left to right. -/
def Ty.places (inside : Bool) : Ty → List LifetimePlace
  | .array _ elem length => elem.places inside ++ length.places inside
  | .bareFn _ binder _ inputs _ _ output =>
    placesInBinder true binder ++ placesInInputs true inputs ++ placesInOutput true output
  | .group _ elem | .paren _ elem | .pointer _ _ elem | .slice _ elem => elem.places inside
  | .implTrait _ bounds _ | .traitObject _ _ bounds _ => placesInBounds inside bounds
  | .infer _ | .never _ | .verbatim .. => []
  | .macroCall _ path _ => path.places inside
  | .path _ self path => placesInSelf inside self ++ path.places inside
  | .reference _ ampersand lifetime _ elem =>
    ⟨.sign lifetime, inside, ampersand⟩ ::
      (lifetime.toList.map (Lifetime.place inside) ++ elem.places inside)
  | .tuple _ elems _ => placesInTypes inside elems

/-- The places of several types. -/
def placesInTypes (inside : Bool) : List Ty → List LifetimePlace
  | [] => []
  | ty :: rest => ty.places inside ++ placesInTypes inside rest

/-- The places of a result, if one is written. -/
def placesInOutput (inside : Bool) : Option Ty → List LifetimePlace
  | none => []
  | some ty => ty.places inside

/-- The places of the parameters of a function pointer. -/
def placesInInputs (inside : Bool) : List FnPointerInput → List LifetimePlace
  | [] => []
  | .mk attributes _ ty :: rest =>
    placesInAttributes inside attributes ++ ty.places inside ++ placesInInputs inside rest

/-- The places of attributes: those of their values. -/
def placesInAttributes (inside : Bool) : List Attribute → List LifetimePlace
  | [] => []
  | ⟨_, _, _, .path, _, _⟩ :: rest | ⟨_, _, _, .list .., _, _⟩ :: rest =>
    placesInAttributes inside rest
  | ⟨_, _, _, .nameValue _ value, _, _⟩ :: rest =>
    value.places inside ++ placesInAttributes inside rest

/-- The places of the parameters of a `for<..>`: of attributes, lifetimes and their bounds. -/
def placesInParams (inside : Bool) : List LifetimeParam → List LifetimePlace
  | [] => []
  | ⟨attributes, l, bounds, _⟩ :: rest =>
    placesInAttributes inside attributes ++ l.place inside :: bounds.map (Lifetime.place inside) ++
      placesInParams inside rest

/-- The places of an optional `for<..>`. -/
def placesInBinder (inside : Bool) : Option Binder → List LifetimePlace
  | none => []
  | some ⟨params, _⟩ => placesInParams inside params

/-- The places of a qualified self. -/
def placesInSelf (inside : Bool) : Option QSelf → List LifetimePlace
  | none => []
  | some (.mk ty _) => ty.places inside

/-- The places of a path. -/
def Path.places (inside : Bool) : Path → List LifetimePlace
  | .mk _ _ segments => placesInSegments inside segments

/-- The places of several segments. -/
def placesInSegments (inside : Bool) : List Segment → List LifetimePlace
  | [] => []
  | .mk _ arguments :: rest => arguments.places inside ++ placesInSegments inside rest

/-- The places of the arguments of a segment. -/
def Arguments.places (inside : Bool) : Arguments → List LifetimePlace
  | .none => []
  | .angle arguments => arguments.places inside
  | .parenthesized inputs _ output => placesInTypes true inputs ++ placesInOutput true output

/-- The places of arguments in angle brackets. -/
def AngleArguments.places (inside : Bool) : AngleArguments → List LifetimePlace
  | .mk _ arguments _ => placesInArguments inside arguments

/-- The places of the optional arguments of an associated item's name. -/
def placesInGenerics (inside : Bool) : Option AngleArguments → List LifetimePlace
  | none => []
  | some arguments => arguments.places inside

/-- The places of several arguments. -/
def placesInArguments (inside : Bool) : List GenericArgument → List LifetimePlace
  | [] => []
  | a :: rest => a.places inside ++ placesInArguments inside rest

/-- The places of an argument. -/
def GenericArgument.places (inside : Bool) : GenericArgument → List LifetimePlace
  | .lifetime l => [l.place inside]
  | .type ty => ty.places inside
  | .const value => value.places inside
  | .assocType _ generics ty => placesInGenerics inside generics ++ ty.places inside
  | .assocConst _ generics value => placesInGenerics inside generics ++ value.places inside
  | .constraint _ generics bounds _ =>
    placesInGenerics inside generics ++ placesInBounds inside bounds

/-- The places of several bounds. -/
def placesInBounds (inside : Bool) : List Bound → List LifetimePlace
  | [] => []
  | b :: rest => b.places inside ++ placesInBounds inside rest

/-- The places of a bound. -/
def Bound.places (inside : Bool) : Bound → List LifetimePlace
  | .trait _ _ binder path => placesInBinder inside binder ++ path.places inside
  | .lifetime l => [l.place inside]
  | .capture captured _ => captured.flatMap (Captured.places inside)
  | .verbatim _ => []

/-- The places of an expression: those of what it mentions. -/
def Expr.places (inside : Bool) : Expr → List LifetimePlace
  | .mk _ _ mentions _ => placesInMentions inside mentions

/-- The places of several mentions. -/
def placesInMentions (inside : Bool) : List Mention → List LifetimePlace
  | [] => []
  | .type ty :: rest => ty.places inside ++ placesInMentions inside rest
  | .lifetime l :: rest => l.place inside :: placesInMentions inside rest

end

/-! ## The first place -/

/-- The first place where a lifetime is left out that nothing around it binds. -/
def firstFree (places : List LifetimePlace) : Option Span :=
  (places.find? fun p => decide p.Free).map (·.span)

/-- What is found where nothing around binds lifetimes. -/
def unlessInside (inside : Bool) (found : Option Span) : Option Span :=
  if inside then none else found

section First

variable {places places' : List LifetimePlace} {inside : Bool} {found found' : Option Span}

@[simp] theorem firstFree_nil : firstFree [] = none := rfl

theorem firstFree_singleton (p : LifetimePlace) :
    firstFree [p] = if p.Free then some p.span else none := by
  by_cases hfree : p.Free <;> simp [firstFree, hfree]

/-- What comes first is found first. -/
@[simp] theorem firstFree_append :
    firstFree (places ++ places') = (firstFree places).or (firstFree places') := by
  rw [firstFree, List.find?_append, Option.map_or]
  rfl

theorem firstFree_cons (p : LifetimePlace) :
    firstFree (p :: places) = (firstFree [p]).or (firstFree places) := by
  rw [← firstFree_append, List.singleton_append]

@[simp] theorem unlessInside_none : unlessInside inside none = none := by
  cases inside <;> rfl

@[simp] theorem unlessInside_or :
    unlessInside inside (found.or found') =
      (unlessInside inside found).or (unlessInside inside found') := by
  cases inside <;> rfl

theorem firstFree_flatMap {β : Type} {l : List β} {f : β → List LifetimePlace}
    {g : β → Option Span} (h : ∀ b, firstFree (f b) = unlessInside inside (g b)) :
    firstFree (l.flatMap f) = unlessInside inside (l.findSome? g) := by
  induction l with
  | nil => rw [List.flatMap_nil, List.findSome?_nil, firstFree_nil, unlessInside_none]
  | cons b rest ih =>
    have hcons : (b :: rest).findSome? g = (g b).or (rest.findSome? g) := by
      cases hg : g b <;> simp [hg]
    rw [List.flatMap_cons, firstFree_append, h, ih, hcons, unlessInside_or]

end First

/-- A lifetime is found where it is left out. -/
@[simp] theorem Lifetime.firstFree_place (inside : Bool) (l : Lifetime) :
    firstFree [l.place inside] = unlessInside inside l.elided? := by
  have hfree : (l.place inside).Free ↔ l.name = "_" ∧ inside = false := Iff.rfl
  rw [firstFree_singleton, Lifetime.elided?]
  by_cases hname : l.name = "_"
  · have hspan : (l.place inside).span = l.span := rfl
    cases inside <;> simp [hfree, hname, hspan, unlessInside]
  · simp [hfree, hname]

/-- A lifetime that is left out is found before all that stands behind it. -/
@[simp] theorem Lifetime.firstFree_place_cons (inside : Bool) (l : Lifetime)
    (places : List LifetimePlace) : firstFree (l.place inside :: places) =
      (unlessInside inside l.elided?).or (firstFree places) := by
  rw [firstFree_cons, firstFree_place]

/-- Of lifetimes, the first that is left out is found. -/
@[simp] theorem firstFree_lifetimes (inside : Bool) (ls : List Lifetime) :
    firstFree (ls.map (Lifetime.place inside)) =
      unlessInside inside (ls.findSome? Lifetime.elided?) := by
  rw [List.map_eq_flatMap]
  exact firstFree_flatMap fun l => l.firstFree_place inside

@[simp] theorem Captured.firstFree_places (inside : Bool) (c : Captured) :
    firstFree (c.places inside) = unlessInside inside c.elided? := by
  cases c with
  | lifetime l => exact l.firstFree_place inside
  | param _ => exact unlessInside_none.symm

/-- The sign of a reference is found where no lifetime is behind it. -/
theorem firstFree_sign (inside : Bool) (lifetime : Option Lifetime) (ampersand : Span) :
    firstFree [⟨.sign lifetime, inside, ampersand⟩] =
      unlessInside inside (if lifetime.isNone then some ampersand else none) := by
  cases lifetime <;> cases inside <;> rfl

mutual

/-- **What is found first in a type is its first free place.** -/
theorem Ty.firstFree_places (inside : Bool) : ∀ ty : Ty,
    firstFree (ty.places inside) = unlessInside inside ty.elided?
  | .array _ elem length => by
    simp [Ty.places, Ty.elided?, elem.firstFree_places, length.firstFree_places]
  | .bareFn _ binder _ inputs _ _ output => by
    -- nothing that is inside counts, whatever it is
    simp [Ty.places, Ty.elided?, firstFree_placesInBinder binder, firstFree_placesInInputs inputs,
      firstFree_placesInOutput output]
  | .group _ elem | .paren _ elem | .pointer _ _ elem | .slice _ elem => by
    simp [Ty.places, Ty.elided?, elem.firstFree_places]
  | .implTrait _ bounds _ | .traitObject _ _ bounds _ => by
    simp [Ty.places, Ty.elided?, firstFree_placesInBounds inside bounds]
  | .infer _ | .never _ | .verbatim .. => by simp [Ty.places, Ty.elided?]
  | .macroCall _ path _ => by simp [Ty.places, Ty.elided?, path.firstFree_places]
  | .path _ none path => by
    simp [Ty.places, Ty.elided?, placesInSelf, path.firstFree_places]
  | .path _ (some (.mk ty _)) path => by
    simp [Ty.places, Ty.elided?, placesInSelf, ty.firstFree_places, path.firstFree_places]
  | .reference _ ampersand none _ elem => by
    -- the sign comes before all that is referred to
    have hor : (some ampersand).or elem.elided? = some ampersand := rfl
    rw [Ty.places, Ty.elided?, ← hor, unlessInside_or, firstFree_cons, firstFree_sign,
      Option.toList_none, List.map_nil, List.nil_append, elem.firstFree_places]
    rfl
  | .reference _ ampersand (some l) _ elem => by
    rw [Ty.places, firstFree_cons, firstFree_sign, Option.toList_some, List.map_singleton,
      firstFree_append, l.firstFree_place, elem.firstFree_places]
    simp [Ty.elided?]
  | .tuple _ elems _ => by
    simp [Ty.places, Ty.elided?, firstFree_placesInTypes inside elems]

theorem firstFree_placesInTypes (inside : Bool) : ∀ tys : List Ty,
    firstFree (placesInTypes inside tys) = unlessInside inside (elidedInTypes? tys)
  | [] => by simp [placesInTypes, elidedInTypes?]
  | ty :: rest => by
    simp [placesInTypes, elidedInTypes?, ty.firstFree_places, firstFree_placesInTypes inside rest]

theorem firstFree_placesInOutput : ∀ output : Option Ty,
    firstFree (placesInOutput true output) = none
  | none => rfl
  | some ty => by simp [placesInOutput, ty.firstFree_places, unlessInside]

theorem firstFree_placesInInputs : ∀ inputs : List FnPointerInput,
    firstFree (placesInInputs true inputs) = none
  | [] => rfl
  | .mk attributes _ ty :: rest => by
    simp [placesInInputs, firstFree_placesInAttributes true attributes, ty.firstFree_places,
      firstFree_placesInInputs rest, unlessInside]

theorem firstFree_placesInAttributes (inside : Bool) : ∀ attributes : List Attribute,
    firstFree (placesInAttributes inside attributes) =
      unlessInside inside (elidedInAttributes? attributes)
  | [] => by simp [placesInAttributes, elidedInAttributes?]
  | ⟨_, _, _, .path, _, _⟩ :: rest | ⟨_, _, _, .list .., _, _⟩ :: rest => by
    simp [placesInAttributes, elidedInAttributes?, firstFree_placesInAttributes inside rest]
  | ⟨_, _, _, .nameValue _ value, _, _⟩ :: rest => by
    simp [placesInAttributes, elidedInAttributes?, value.firstFree_places,
      firstFree_placesInAttributes inside rest]

theorem firstFree_placesInParams (inside : Bool) : ∀ params : List LifetimeParam,
    firstFree (placesInParams inside params) = unlessInside inside (elidedInParams? params)
  | [] => by simp [placesInParams, elidedInParams?]
  | ⟨attributes, l, bounds, _⟩ :: rest => by
    simp [placesInParams, elidedInParams?, firstFree_placesInAttributes inside attributes,
      firstFree_placesInParams inside rest]

theorem firstFree_placesInBinder : ∀ binder : Option Binder,
    firstFree (placesInBinder true binder) = none
  | none => rfl
  | some ⟨params, _⟩ => by
    simp [placesInBinder, firstFree_placesInParams true params, unlessInside]

theorem Path.firstFree_places (inside : Bool) : ∀ path : Path,
    firstFree (path.places inside) = unlessInside inside path.elided?
  | .mk _ _ segments => by
    simp [Path.places, Path.elided?, firstFree_placesInSegments inside segments]

theorem firstFree_placesInSegments (inside : Bool) : ∀ segments : List Segment,
    firstFree (placesInSegments inside segments) = unlessInside inside (elidedInSegments? segments)
  | [] => by simp [placesInSegments, elidedInSegments?]
  | .mk _ arguments :: rest => by
    simp [placesInSegments, elidedInSegments?, arguments.firstFree_places,
      firstFree_placesInSegments inside rest]

theorem Arguments.firstFree_places (inside : Bool) : ∀ arguments : Arguments,
    firstFree (arguments.places inside) = unlessInside inside arguments.elided?
  | .none => by simp [Arguments.places, Arguments.elided?]
  | .angle arguments => by
    simp [Arguments.places, Arguments.elided?, arguments.firstFree_places]
  | .parenthesized inputs _ output => by
    simp [Arguments.places, Arguments.elided?, firstFree_placesInTypes true inputs,
      firstFree_placesInOutput, unlessInside]

theorem AngleArguments.firstFree_places (inside : Bool) : ∀ arguments : AngleArguments,
    firstFree (arguments.places inside) = unlessInside inside arguments.elided?
  | .mk _ arguments _ => by
    simp [AngleArguments.places, AngleArguments.elided?,
      firstFree_placesInArguments inside arguments]

theorem firstFree_placesInArguments (inside : Bool) : ∀ arguments : List GenericArgument,
    firstFree (placesInArguments inside arguments) =
      unlessInside inside (elidedInArguments? arguments)
  | [] => by simp [placesInArguments, elidedInArguments?]
  | a :: rest => by
    simp [placesInArguments, elidedInArguments?, a.firstFree_places,
      firstFree_placesInArguments inside rest]

theorem GenericArgument.firstFree_places (inside : Bool) : ∀ a : GenericArgument,
    firstFree (a.places inside) = unlessInside inside a.elided?
  | .lifetime l => by simp [GenericArgument.places, GenericArgument.elided?]
  | .type ty => by simp [GenericArgument.places, GenericArgument.elided?, ty.firstFree_places]
  | .const value => by
    simp [GenericArgument.places, GenericArgument.elided?, value.firstFree_places]
  | .assocType _ none ty => by
    simp [GenericArgument.places, GenericArgument.elided?, placesInGenerics, ty.firstFree_places]
  | .assocType _ (some generics) ty => by
    simp [GenericArgument.places, GenericArgument.elided?, placesInGenerics,
      generics.firstFree_places, ty.firstFree_places]
  | .assocConst _ none value => by
    simp [GenericArgument.places, GenericArgument.elided?, placesInGenerics,
      value.firstFree_places]
  | .assocConst _ (some generics) value => by
    simp [GenericArgument.places, GenericArgument.elided?, placesInGenerics,
      generics.firstFree_places, value.firstFree_places]
  | .constraint _ none bounds _ => by
    simp [GenericArgument.places, GenericArgument.elided?, placesInGenerics,
      firstFree_placesInBounds inside bounds]
  | .constraint _ (some generics) bounds _ => by
    simp [GenericArgument.places, GenericArgument.elided?, placesInGenerics,
      generics.firstFree_places, firstFree_placesInBounds inside bounds]

theorem firstFree_placesInBounds (inside : Bool) : ∀ bounds : List Bound,
    firstFree (placesInBounds inside bounds) = unlessInside inside (elidedInBounds? bounds)
  | [] => by simp [placesInBounds, elidedInBounds?]
  | b :: rest => by
    simp [placesInBounds, elidedInBounds?, b.firstFree_places, firstFree_placesInBounds inside rest]

theorem Bound.firstFree_places (inside : Bool) : ∀ b : Bound,
    firstFree (b.places inside) = unlessInside inside b.elided?
  | .trait _ _ none path => by
    simp [Bound.places, Bound.elided?, placesInBinder, path.firstFree_places]
  | .trait _ _ (some ⟨params, _⟩) path => by
    simp [Bound.places, Bound.elided?, placesInBinder, firstFree_placesInParams inside params,
      path.firstFree_places]
  | .lifetime l => by simp [Bound.places, Bound.elided?]
  | .capture captured _ => by
    rw [Bound.places, Bound.elided?]
    exact firstFree_flatMap fun c => c.firstFree_places inside
  | .verbatim _ => by simp [Bound.places, Bound.elided?]

theorem Expr.firstFree_places (inside : Bool) : ∀ e : Expr,
    firstFree (e.places inside) = unlessInside inside e.elided?
  | .mk _ _ mentions _ => by
    simp [Expr.places, Expr.elided?, firstFree_placesInMentions inside mentions]

theorem firstFree_placesInMentions (inside : Bool) : ∀ mentions : List Mention,
    firstFree (placesInMentions inside mentions) = unlessInside inside (elidedInMentions? mentions)
  | [] => by simp [placesInMentions, elidedInMentions?]
  | .type ty :: rest => by
    simp [placesInMentions, elidedInMentions?, ty.firstFree_places,
      firstFree_placesInMentions inside rest]
  | .lifetime l :: rest => by
    simp [placesInMentions, elidedInMentions?, firstFree_placesInMentions inside rest]

end

theorem Ty.elided?_eq (ty : Ty) :
    ty.elided? = ((ty.places false).find? fun p => decide p.Free).map (·.span) :=
  (ty.firstFree_places false).symm

/-- What is found is the first free place. -/
theorem Ty.elided?_eq_some_iff {ty : Ty} {span : Span} :
    ty.elided? = some span ↔ ∃ before p after, ty.places false = before ++ p :: after ∧
      p.Free ∧ p.span = span ∧ ∀ q ∈ before, ¬ q.Free := by
  rw [elided?_eq, Option.map_eq_some_iff]
  constructor
  · rintro ⟨p, hp, rfl⟩
    obtain ⟨hfree, before, after, hplaces, hbefore⟩ := List.find?_eq_some_iff_append.1 hp
    exact ⟨before, p, after, hplaces, of_decide_eq_true hfree, rfl,
      fun q hq => by simpa using hbefore q hq⟩
  · rintro ⟨before, p, after, hplaces, hfree, rfl, hbefore⟩
    refine ⟨p, List.find?_eq_some_iff_append.2 ⟨decide_eq_true hfree, before, after, hplaces, ?_⟩,
      rfl⟩
    intro q hq
    simpa using hbefore q hq

/-- **The first place.** The search finds a place exactly where a type leaves a lifetime out that
nothing around it binds, and then the first such place. -/
theorem Ty.elided?_first (ty : Ty) :
    (ty.elided?.isSome = true ↔ ∃ p ∈ ty.places false, p.Free) ∧
    ∀ span, ty.elided? = some span ↔
      ∃ before p after, ty.places false = before ++ p :: after ∧
        p.Free ∧ p.span = span ∧ ∀ q ∈ before, ¬ q.Free := by
  refine ⟨?_, fun span => elided?_eq_some_iff⟩
  rw [elided?_eq, Option.isSome_map, List.find?_isSome]
  simp only [decide_eq_true_eq]

end DeclSynth
