import DeclSynth.Proofs.AsyncPeer.Elision
import DeclSynth.Proofs.AsyncPeer.Parentheses
import DeclSynth.Proofs.Outcome
import DeclSynth.Proofs.Scope
import Mathlib.Tactic.ByContra

/-!
# What a signature is refused for

`Signature.Objects` tells what speaks against a signature, each objection with its rank, and
`Ty.IsHandler` what a handler is. A signature is judged by the objection of least rank, or
else by its handler (`Signature.Judged`). What the checks come to is this judgement but for
two mistakes: they refuse a function whose handler is of a type parameter called `Box`, and
take for a handler what is of any other type that a predicate of the where clause is about
(`CompletionHandler.ofSignature_judged`).
-/

namespace DeclSynth

variable {g g' : Generics} {sig sig' : Signature} {ty : Ty} {h h' : CompletionHandler}
variable {b : Bound} {bounds : List Bound} {call call' : CallShape} {name : Ident}

/-! ## Calls -/

/-- A bound allows a call: it is one of the function traits, with arguments in parentheses. -/
inductive Bound.Allows : Bound → CallShape → Prop where
  | intro (parenthesized relaxed : Bool) (binder : Option Binder) {path : Path} {name : Ident}
    {inputs : List Ty} {trailing : Bool} {output : Option Ty}
    (hlast : path.segments.getLast? = some (.mk name (.parenthesized inputs trailing output)))
    (hname : name.text ∈ ["Fn", "FnMut", "FnOnce"]) :
    Allows (.trait parenthesized relaxed binder path) ⟨inputs, output⟩

/-- A call is the one that the first bound allows which allows any. -/
def FirstAllowed (bounds : List Bound) (call : CallShape) : Prop :=
  ∃ before b behind, bounds = before ++ b :: behind ∧ b.Allows call ∧
    ∀ b' ∈ before, ∀ call', ¬ b'.Allows call'

/-- The bounds that a parameter is declared with, if it is the type parameter of this name. -/
def GenericParam.boundsOn (name : Ident) : GenericParam → List Bound
  | .type p => if p.name.text = name.text then p.bounds else []
  | .lifetime _ | .const _ => []

/-- The bounds of a predicate, if it is about the type of this name. -/
def WherePredicate.boundsOn (name : Ident) : WherePredicate → List Bound
  | .type _ ty bounds _ => if ty.isIdent name then bounds else []
  | .lifetime .. => []

/-- The bounds on what has a name: those that a type parameter is declared with, and behind them
those of the predicates about it. -/
def Generics.boundsOn (g : Generics) (name : Ident) : List Bound :=
  g.params.flatMap (GenericParam.boundsOn name) ++
    g.predicates.flatMap (WherePredicate.boundsOn name)

/-- A type parameter has this name. -/
def Generics.DeclaresType (g : Generics) (name : Ident) : Prop :=
  ∃ p, GenericParam.type p ∈ g.params ∧ p.name.text = name.text

/-! ## Handlers -/

/-- A type is that of a handler. -/
inductive Ty.IsHandler (g : Generics) : Ty → CompletionHandler → Prop where
  | paren (span : Span) {ty : Ty} {h : CompletionHandler} (hty : IsHandler g ty h) :
    IsHandler g (.paren span ty) h
  | group (span : Span) {ty : Ty} {h : CompletionHandler} (hty : IsHandler g ty h) :
    IsHandler g (.group span ty) h
  | implTrait (span : Span) {bounds : List Bound} (trailing : Bool) {call : CallShape}
    (hcall : FirstAllowed bounds call) :
    IsHandler g (.implTrait span bounds trailing) ⟨.implTrait, call⟩
  | borrowed (span ampersand : Span) (lifetime : Option Lifetime) (mutable : Bool) (span' : Span)
    (word : Bool) {bounds : List Bound} (trailing : Bool) {call : CallShape}
    (hcall : FirstAllowed bounds call) :
    IsHandler g
      (.reference span ampersand lifetime mutable (.traitObject span' word bounds trailing))
      ⟨.borrowed mutable, call⟩
  /-- The path ends in `Box`, and its first argument is an object type. -/
  | boxed (span : Span) {path : Path} {name : Ident} {turbofish : Bool} {span' : Span} {word : Bool}
    {bounds : List Bound} {trailing : Bool} {more : List GenericArgument} {comma : Bool}
    (hlast : path.segments.getLast? = some (.mk name (.angle
      (.mk turbofish (.type (.traitObject span' word bounds trailing) :: more) comma))))
    (hname : name.text = "Box") {call : CallShape} (hcall : FirstAllowed bounds call) :
    IsHandler g (.path span none path) ⟨.boxed, call⟩
  /-- The path is the name of a type parameter. -/
  | generic (span : Span) {path : Path} {name : Ident} (hname : path.ident? = some name)
    (hparam : g.DeclaresType name) {call : CallShape}
    (hcall : FirstAllowed (g.boundsOn name) call) :
    IsHandler g (.path span none path) ⟨.generic name, call⟩

/-- A type is no handler's but looks like one: it is a name that no type parameter has, and a
predicate gives what has the name a function trait. -/
inductive Ty.LooksHandler (g : Generics) : Ty → CompletionHandler → Prop where
  | paren (span : Span) {ty : Ty} {h : CompletionHandler} (hty : LooksHandler g ty h) :
    LooksHandler g (.paren span ty) h
  | group (span : Span) {ty : Ty} {h : CompletionHandler} (hty : LooksHandler g ty h) :
    LooksHandler g (.group span ty) h
  | name (span : Span) {path : Path} {name : Ident} (hname : path.ident? = some name)
    (hbox : name.text ≠ "Box") (hparam : ¬ g.DeclaresType name) {call : CallShape}
    (hcall : FirstAllowed (g.boundsOn name) call) :
    LooksHandler g (.path span none path) ⟨.generic name, call⟩

/-- A handler of a type parameter that has the name of boxes. -/
def CompletionHandler.IsBoxParam (h : CompletionHandler) : Prop :=
  ∃ name, h.shape = .generic name ∧ name.text = "Box"

namespace Signature

/-- The type of the last parameter, if this is no receiver. -/
def lastTy? (sig : Signature) : Option Ty :=
  match sig.inputs.getLast? with
  | some (.typed _ _ ty) => some ty
  | _ => none

/-- A handler is the last parameter. -/
def Takes (sig : Signature) (h : CompletionHandler) : Prop :=
  ∃ ty, sig.lastTy? = some ty ∧ ty.IsHandler sig.generics h

/-- The last parameter is no handler but looks like one. -/
def SeemsToTake (sig : Signature) (h : CompletionHandler) : Prop :=
  ∃ ty, sig.lastTy? = some ty ∧ ty.LooksHandler sig.generics h

/-! ## Judgements -/

/-- What speaks against a signature, with its rank. -/
inductive Objects (sig : Signature) : Nat → Failure → Prop where
  | alreadyAsync {span : Span} (hasync : sig.asyncWord = some span) :
    Objects sig 0 (ExpandError.alreadyAsync.at span)
  | nonUnitReturn {ty : Ty} (houtput : sig.output = some ty) (hunit : ty.isUnit = false) :
    Objects sig 1 (ExpandError.nonUnitReturn.at ty.span)
  | missing (hnone : ∀ h, ¬ sig.Takes h) :
    Objects sig 2 (ExpandError.missingCompletionHandler.at sig.name.span)
  | returnsValue {h : CompletionHandler} (htakes : sig.Takes h) {ty : Ty}
    (houtput : h.call.output = some ty) (hunit : ty.isUnit = false) :
    Objects sig 3 (ExpandError.completionHandlerReturnsValue.at ty.span)
  | arity {h : CompletionHandler} (htakes : sig.Takes h) {first second : Ty} {more : List Ty}
    (hinputs : h.call.inputs = first :: second :: more) :
    Objects sig 4 (ExpandError.completionHandlerArity.at second.span)
  /-- A lifetime is left out in what the handler is called with. -/
  | elided {h : CompletionHandler} (htakes : sig.Takes h) {payload : Ty} {more : List Ty}
    (hinputs : h.call.inputs = payload :: more) {before behind : List LifetimePlace}
    {place : LifetimePlace} (hplaces : payload.places false = before ++ place :: behind)
    (hfree : place.Free) (hfirst : ∀ p ∈ before, ¬ p.Free) :
    Objects sig 5
      ((ExpandError.elidedPayloadLifetime payload.tokens.render).at place.span)

/-- **The judgement on a signature**: the first objection to it, or else its handler. -/
inductive Judged (sig : Signature) : Except Failure CompletionHandler → Prop where
  | refused {rank : Nat} {f : Failure} (hobjects : sig.Objects rank f)
    (hfirst : ∀ r < rank, ∀ f', ¬ sig.Objects r f') : Judged sig (.error f)
  | accepted {h : CompletionHandler} (htakes : sig.Takes h)
    (hnone : ∀ rank f, ¬ sig.Objects rank f) : Judged sig (.ok h)

/-- Nothing speaks against the signature before its handler is looked for. -/
structure HandlerSought (sig : Signature) : Prop where
  synchronous : sig.asyncWord = none
  unit : ∀ ty, sig.output = some ty → ty.isUnit = true

/-- The handler is overlooked: it is of a type parameter that has the name of boxes. -/
structure Overlooked (sig : Signature) : Prop extends sig.HandlerSought where
  handler : ∃ h, sig.Takes h ∧ h.IsBoxParam

/-- What is no handler is mistaken for one. -/
structure Mistaken (sig : Signature) : Prop extends sig.HandlerSought where
  handler : ∃ h, sig.SeemsToTake h

/-- Two signatures agree in what the checks are about: the word `async`, the result, the type of the
last parameter, the bounds on what this names in parentheses or not, and where the name of the
function stands. -/
structure Agrees (sig sig' : Signature) : Prop where
  asyncWord : sig'.asyncWord = sig.asyncWord
  output : sig'.output = sig.output
  lastTy? : sig'.lastTy? = sig.lastTy?
  bounds : ∀ {ty : Ty} {span : Span} {path : Path} {name : Ident}, sig.lastTy? = some ty →
    ty.peel = .path span none path → path.ident? = some name →
      sig'.generics.boundsOn name = sig.generics.boundsOn name
  place : sig'.name.span = sig.name.span

end Signature

/-! ## Finding calls -/

theorem Bound.allows_iff : b.Allows call ↔ b.call? = some call := by
  constructor
  · rintro ⟨_, _, _, hlast, hname⟩
    have hcontains : ["Fn", "FnMut", "FnOnce"].contains _ = true := List.contains_iff_mem.2 hname
    simp only [call?, hlast, hcontains, if_true]
  · intro hcall
    cases b with
    | trait parenthesized relaxed binder path =>
      simp only [call?] at hcall
      split at hcall
      next name inputs trailing output hlast =>
        split at hcall
        next hname =>
          rw [← Option.some.inj hcall]
          exact .intro _ _ _ hlast (List.contains_iff_mem.1 hname)
        next => cases hcall
      next => cases hcall
    | lifetime _ => cases hcall
    | capture _ _ => cases hcall
    | verbatim _ => cases hcall

/-- The first call that bounds allow is found. -/
theorem firstAllowed_iff : FirstAllowed bounds call ↔ callOfBounds? bounds = some call := by
  have hnone (b' : Bound) : (∀ c, ¬ b'.Allows c) ↔ b'.call? = none := by
    simp only [Bound.allows_iff, Option.eq_none_iff_forall_ne_some, ne_eq]
  rw [callOfBounds?, List.findSome?_eq_some_iff]
  simp only [FirstAllowed, hnone]
  simp only [Bound.allows_iff]

theorem callOfBounds?_append (bounds bounds' : List Bound) :
    callOfBounds? (bounds ++ bounds') = (callOfBounds? bounds <|> callOfBounds? bounds') :=
  List.findSome?_append.trans Option.or_eq_orElse

theorem callOfBounds?_flatMap {β : Type} (l : List β) (f : β → List Bound) :
    callOfBounds? (l.flatMap f) = l.findSome? fun a => callOfBounds? (f a) := by
  induction l with
  | nil => rfl
  | cons a rest ih =>
    rw [List.flatMap_cons, callOfBounds?_append, ih, List.findSome?_cons]
    cases callOfBounds? (f a) <;> rfl

/-- **The bounds that a type parameter is declared with come first.** -/
theorem Generics.callOf?_eq (g : Generics) (name : Ident) :
    g.callOf? name = callOfBounds? (g.boundsOn name) := by
  have hparam (p : GenericParam) : p.callOf? name = callOfBounds? (p.boundsOn name) := by
    cases p with
    | type p =>
      simp only [GenericParam.callOf?, GenericParam.boundsOn, Ident.sameName_iff]
      split <;> rfl
    | lifetime _ => rfl
    | const _ => rfl
  have hpredicate (w : WherePredicate) : w.callOf? name = callOfBounds? (w.boundsOn name) := by
    cases w with
    | type binder ty bounds trailing =>
      simp only [WherePredicate.callOf?, WherePredicate.boundsOn]
      split <;> rfl
    | lifetime l bounds trailing => rfl
  rw [boundsOn, callOfBounds?_append, callOfBounds?_flatMap, callOfBounds?_flatMap]
  simp only [← hparam, ← hpredicate]
  unfold callOf? predicates
  cases g.clause <;> rfl

theorem firstAllowed_boundsOn_iff :
    FirstAllowed (g.boundsOn name) call ↔ g.callOf? name = some call := by
  rw [firstAllowed_iff, Generics.callOf?_eq]

/-! ## Finding handlers -/

namespace CompletionHandler

theorem last_of_ident? {path : Path} (hname : path.ident? = some name) :
    path.segments.getLast? = some (.mk name .none) := by
  unfold Path.ident? at hname
  split at hname
  · rw [← Option.some.inj hname]
    rfl
  · cases hname

theorem isHandler_of_ofBox? {path : Path} {segment : Segment} (span : Span)
    (hlast : path.segments.getLast? = some segment) (hbox : segment.name.text = "Box")
    (hof : ofBox? segment.arguments = some h) :
    (Ty.path span none path).IsHandler g h ∧ ¬ h.IsBoxParam := by
  obtain ⟨name, arguments⟩ := segment
  unfold ofBox? at hof
  split at hof
  next harguments =>
    obtain ⟨call, hcall, rfl⟩ := Option.map_eq_some_iff.1 hof
    rw [show arguments = _ from harguments] at hlast
    exact ⟨.boxed _ hlast hbox (firstAllowed_iff.2 hcall), by rintro ⟨_, ⟨⟩, _⟩⟩
  next => cases hof

theorem isHandler_of_ofPath? {path : Path} (span : Span) (hof : ofPath? g path = some h) :
    (Ty.path span none path).IsHandler g h ∧ ¬ h.IsBoxParam ∨
      (Ty.path span none path).LooksHandler g h := by
  unfold ofPath? at hof
  split at hof
  next => cases hof
  next segment hlast =>
    split at hof
    next hbox => exact .inl (isHandler_of_ofBox? span hlast (beq_iff_eq.1 hbox) hof)
    next hbox =>
      obtain ⟨name, hname, hof⟩ := Option.bind_eq_some_iff.1 hof
      obtain ⟨call, hcall, hof⟩ := Option.bind_eq_some_iff.1 hof
      rw [← Option.some.inj hof]
      have hfirst := firstAllowed_boundsOn_iff.2 hcall
      -- the name is that of the segment, and no box has it
      have hnot : name.text ≠ "Box" := by
        rw [last_of_ident? hname] at hlast
        rw [← Option.some.inj hlast] at hbox
        exact fun hname' => hbox (beq_iff_eq.2 hname')
      by_cases hparam : g.DeclaresType name
      · refine .inl ⟨.generic _ hname hparam hfirst, ?_⟩
        rintro ⟨name', hshape, hname'⟩
        rw [← HandlerShape.generic.inj hshape] at hname'
        exact hnot hname'
      · exact .inr (.name _ hname hnot hparam hfirst)

/-- **What is found is a handler**, and not of a type parameter that has the name of boxes, or it
looks like a handler. -/
theorem isHandler_of_ofTy? (hty : ofTy? g ty = some h) :
    ty.IsHandler g h ∧ ¬ h.IsBoxParam ∨ ty.LooksHandler g h := by
  induction ty using ofTy?.induct with
  | case1 span elem ih =>
    exact (ih hty).imp (fun hfound => ⟨.paren _ hfound.1, hfound.2⟩) (.paren _)
  | case2 span elem ih =>
    exact (ih hty).imp (fun hfound => ⟨.group _ hfound.1, hfound.2⟩) (.group _)
  | case3 span bounds trailing =>
    obtain ⟨call, hcall, rfl⟩ := Option.map_eq_some_iff.1 hty
    exact .inl ⟨.implTrait _ _ (firstAllowed_iff.2 hcall), by rintro ⟨_, ⟨⟩, _⟩⟩
  | case4 span ampersand lifetime mutable span' word bounds trailing =>
    obtain ⟨call, hcall, rfl⟩ := Option.map_eq_some_iff.1 hty
    exact .inl ⟨.borrowed _ _ _ _ _ _ _ (firstAllowed_iff.2 hcall), by rintro ⟨_, ⟨⟩, _⟩⟩
  | case5 span path => exact isHandler_of_ofPath? span hty
  | case6 ty h1 h2 h3 h4 h5 => simp [ofTy?] at hty

/-- **A handler is found**, unless it is of a type parameter that has the name of boxes, and then
none is. -/
theorem ofTy?_of_isHandler (hty : ty.IsHandler g h) :
    ofTy? g ty = some h ∨ (h.IsBoxParam ∧ ofTy? g ty = none) := by
  induction hty with
  | paren span _ ih => exact ih
  | group span _ ih => exact ih
  | implTrait span trailing hcall =>
    rw [ofTy?, firstAllowed_iff.1 hcall]
    exact .inl rfl
  | borrowed span ampersand lifetime mutable span' word trailing hcall =>
    rw [ofTy?, firstAllowed_iff.1 hcall]
    exact .inl rfl
  | boxed span hlast hname hcall =>
    left
    rw [ofTy?, ofPath?, hlast]
    simp only [Segment.name, hname, Segment.arguments, ofBox?, firstAllowed_iff.1 hcall]
    rfl
  | @generic span path name hname _ call hcall =>
    have hlast := last_of_ident? hname
    by_cases hbox : name.text = "Box"
    · -- a box has arguments, and a name alone has none
      right
      refine ⟨⟨name, rfl, hbox⟩, ?_⟩
      rw [ofTy?, ofPath?, hlast]
      simp [Segment.name, hbox, Segment.arguments, ofBox?]
    · left
      rw [ofTy?, ofPath?, hlast]
      simp [Segment.name, hbox, hname, firstAllowed_boundsOn_iff.1 hcall]

/-- What looks like a handler is found. -/
theorem ofTy?_of_looksHandler (hty : ty.LooksHandler g h) : ofTy? g ty = some h := by
  induction hty with
  | paren span _ ih => exact ih
  | group span _ ih => exact ih
  | name span hname hbox _ hcall =>
    rw [ofTy?, ofPath?, last_of_ident? hname]
    simp [Segment.name, hbox, hname, firstAllowed_boundsOn_iff.1 hcall]

/-- What looks like a handler is none. -/
theorem not_isHandler_of_looksHandler (hty : ty.LooksHandler g h) : ¬ ty.IsHandler g h' := by
  induction hty with
  | paren span _ ih =>
    intro hhandler
    cases hhandler with
    | paren _ hhandler => exact ih hhandler
  | group span _ ih =>
    intro hhandler
    cases hhandler with
    | group _ hhandler => exact ih hhandler
  | name span hname hbox hparam hcall =>
    intro hhandler
    cases hhandler with
    | boxed _ hlast _ _ =>
      rw [last_of_ident? hname] at hlast
      cases hlast
    | generic _ hname' hdeclares _ =>
      rw [hname] at hname'
      cases hname'
      exact hparam hdeclares

theorem firstAllowed_unique (hcall : FirstAllowed bounds call)
    (hcall' : FirstAllowed bounds call') : call = call' := by
  rw [firstAllowed_iff] at hcall hcall'
  exact Option.some.inj (hcall.symm.trans hcall')

/-- A type is that of one handler at most. -/
theorem isHandler_unique (hty : ty.IsHandler g h) (hty' : ty.IsHandler g h') : h = h' := by
  induction hty with
  | paren span _ ih =>
    cases hty' with
    | paren _ hty' => exact ih hty'
  | group span _ ih =>
    cases hty' with
    | group _ hty' => exact ih hty'
  | implTrait span trailing hcall =>
    cases hty' with
    | implTrait _ _ hcall' => rw [firstAllowed_unique hcall hcall']
  | borrowed span ampersand lifetime mutable span' word trailing hcall =>
    cases hty' with
    | borrowed _ _ _ _ _ _ _ hcall' => rw [firstAllowed_unique hcall hcall']
  | boxed span hlast hname hcall =>
    cases hty' with
    | boxed _ hlast' _ hcall' =>
      rw [hlast] at hlast'
      cases hlast'
      rw [firstAllowed_unique hcall hcall']
    | generic _ hname' _ _ =>
      rw [last_of_ident? hname'] at hlast
      cases hlast
  | generic span hname _ hcall =>
    cases hty' with
    | boxed _ hlast _ _ =>
      rw [last_of_ident? hname] at hlast
      cases hlast
    | generic _ hname' _ hcall' =>
      rw [hname] at hname'
      cases hname'
      rw [firstAllowed_unique hcall hcall']

theorem last?_eq (sig : Signature) : last? sig = sig.lastTy?.bind (ofTy? sig.generics) := by
  unfold last? Signature.lastTy?
  rcases sig.inputs.getLast? with - | (r | ⟨attributes, pat, ty⟩) <;> rfl

theorem takes_of_last? (hlast : last? sig = some h) :
    sig.Takes h ∧ ¬ h.IsBoxParam ∨ sig.SeemsToTake h := by
  rw [last?_eq, Option.bind_eq_some_iff] at hlast
  obtain ⟨ty, hty, hof⟩ := hlast
  rcases isHandler_of_ofTy? hof with ⟨hhandler, hbox⟩ | hlooks
  · exact .inl ⟨⟨ty, hty, hhandler⟩, hbox⟩
  · exact .inr ⟨ty, hty, hlooks⟩

theorem last?_of_seemsToTake (hseems : sig.SeemsToTake h) : last? sig = some h := by
  obtain ⟨ty, hty, hlooks⟩ := hseems
  rw [last?_eq, hty]
  exact ofTy?_of_looksHandler hlooks

theorem not_takes_of_seemsToTake (hseems : sig.SeemsToTake h) : ¬ sig.Takes h' := by
  rintro ⟨ty, hty, hhandler⟩
  obtain ⟨ty', hty', hlooks⟩ := hseems
  rw [hty] at hty'
  cases hty'
  exact not_isHandler_of_looksHandler hlooks hhandler

theorem last?_of_takes (htakes : sig.Takes h) :
    last? sig = some h ∨ (h.IsBoxParam ∧ last? sig = none) := by
  obtain ⟨ty, hty, hhandler⟩ := htakes
  rw [last?_eq, hty]
  exact ofTy?_of_isHandler hhandler

theorem takes_unique (htakes : sig.Takes h) (htakes' : sig.Takes h') : h = h' := by
  obtain ⟨ty, hty, hhandler⟩ := htakes
  obtain ⟨ty', hty', hhandler'⟩ := htakes'
  rw [hty] at hty'
  cases hty'
  exact isHandler_unique hhandler hhandler'

/-- A signature that takes a handler takes no other. -/
theorem takes_iff_of_takes (htakes : sig.Takes h) (h' : CompletionHandler) :
    sig.Takes h' ↔ some h = some h' := by
  constructor
  · exact fun htakes' => congrArg some (takes_unique htakes htakes')
  · rintro ⟨⟩
    exact htakes

end CompletionHandler

/-! ## The first objection -/

section Checks

variable {ε : Type} {e : ε} {checks : List (Except ε Unit)}

/-- Of checks that are made in turn, the first that fails is what they find. -/
theorem forM_eq_error_iff : checks.forM id = .error e ↔ ∃ i : Nat,
    checks[i]? = some (Except.error e) ∧
      ∀ j < i, ∀ e', checks[j]? ≠ some (Except.error e') := by
  induction checks with
  | nil => exact ⟨nofun, fun ⟨_, hi, _⟩ => nomatch hi⟩
  | cons c rest ih =>
    cases c with
    | ok u =>
      -- a check that passes puts all others off by one place
      have hcons : (Except.ok u :: rest).forM id = rest.forM id := rfl
      rw [hcons, ih]
      constructor
      · rintro ⟨i, hi, hbefore⟩
        refine ⟨i + 1, hi, fun j hj e' => ?_⟩
        cases j with
        | zero => simp
        | succ j => exact hbefore j (by omega) e'
      · rintro ⟨i, hi, hbefore⟩
        cases i with
        | zero => simp at hi
        | succ i => exact ⟨i, hi, fun j hj e' => hbefore (j + 1) (by omega) e'⟩
    | error e₀ =>
      have hcons : (Except.error e₀ :: rest).forM id = (.error e₀ : Except ε PUnit) := rfl
      rw [hcons]
      constructor
      · intro heq
        cases heq
        exact ⟨0, rfl, fun j hj => absurd hj (by omega)⟩
      · rintro ⟨i, hi, hbefore⟩
        cases i with
        | zero => simpa using hi
        | succ i => exact absurd rfl (hbefore 0 (by omega) e₀)

/-- Checks find nothing if none of them fails. -/
theorem forM_eq_ok_iff : checks.forM id = .ok () ↔
    ∀ (i : Nat) (e : ε), checks[i]? ≠ some (Except.error e) := by
  induction checks with
  | nil => exact ⟨fun _ _ _ => nofun, fun _ => rfl⟩
  | cons c rest ih =>
    cases c with
    | ok u =>
      have hcons : (Except.ok u :: rest).forM id = rest.forM id := rfl
      rw [hcons, ih]
      constructor
      · intro hrest i e
        cases i with
        | zero => simp
        | succ i => exact hrest i e
      · exact fun hall i e => hall (i + 1) e
    | error e₀ =>
      have hcons : (Except.error e₀ :: rest).forM id = (.error e₀ : Except ε PUnit) := rfl
      rw [hcons]
      exact ⟨nofun, fun hall => absurd rfl (hall 0 e₀)⟩

end Checks

namespace CompletionHandler

variable {f : Failure} {handler : Option CompletionHandler}

/-- The checks on a handler, by the rank of what they find; with a handler, there is nothing to be
found where it might be missing. -/
def handlerChecks (sig : Signature) : Option CompletionHandler → List (Except Failure Unit)
  | none => [.error (ExpandError.missingCompletionHandler.at sig.name.span)]
  | some h =>
    [.ok (), checkUnit .completionHandlerReturnsValue h.call.output, h.checkArity, h.checkPayload]

/-- All checks on a signature, in their order. -/
def checks (sig : Signature) (handler : Option CompletionHandler) : List (Except Failure Unit) :=
  checkSynchronous sig :: checkUnit .nonUnitReturn sig.output :: handlerChecks sig handler

/-- The checks are made in their order, and then the handler is what is found. -/
theorem ofSignature_eq (sig : Signature) :
    ofSignature sig = (checks sig (last? sig)).forM id >>= fun _ =>
      match last? sig with
      | some h => .ok h
      | none => .error (ExpandError.missingCompletionHandler.at sig.name.span) := by
  unfold ofSignature checks handlerChecks
  cases checkSynchronous sig with
  | error _ => cases last? sig <;> rfl
  | ok _ =>
    cases checkUnit .nonUnitReturn sig.output with
    | error _ => cases last? sig <;> rfl
    | ok _ =>
      cases last? sig with
      | none => rfl
      | some h =>
        dsimp only
        cases checkUnit .completionHandlerReturnsValue h.call.output with
        | error _ => rfl
        | ok _ =>
          cases h.checkArity with
          | error _ => rfl
          | ok _ => cases h.checkPayload <;> rfl

/-- **The handler is found if no check fails.** -/
theorem ofSignature_eq_ok_iff : ofSignature sig = .ok h ↔
    last? sig = some h ∧ (checks sig (last? sig)).forM id = .ok () := by
  rw [ofSignature_eq, except_bind_eq_ok]
  cases hlast : last? sig with
  | some h' =>
    constructor
    · rintro ⟨_, hchecks, hok⟩
      cases hok
      exact ⟨rfl, hchecks⟩
    · rintro ⟨hsome, hchecks⟩
      cases hsome
      exact ⟨(), hchecks, rfl⟩
  | none => exact ⟨fun ⟨_, _, hok⟩ => (nomatch hok), fun ⟨hsome, _⟩ => (nomatch hsome)⟩

/-- **What is found else is the first failure of a check.** -/
theorem ofSignature_eq_error_iff : ofSignature sig = .error f ↔
    (checks sig (last? sig)).forM id = .error f := by
  rw [ofSignature_eq]
  cases hchecks : (checks sig (last? sig)).forM id with
  | error f' =>
    constructor
    · intro heq
      cases heq
      rfl
    · intro heq
      cases heq
      rfl
  | ok _ =>
    -- without a handler a check has failed
    have hsome : ∃ h, last? sig = some h := by
      cases hlast : last? sig with
      | some h => exact ⟨h, rfl⟩
      | none =>
        rw [hlast, forM_eq_ok_iff] at hchecks
        exact absurd rfl (hchecks 2 _)
    obtain ⟨h, hlast⟩ := hsome
    rw [hlast]
    exact ⟨nofun, nofun⟩

theorem checkSynchronous_eq_error_iff : checkSynchronous sig = .error f ↔
    ∃ span, sig.asyncWord = some span ∧ f = ExpandError.alreadyAsync.at span := by
  unfold checkSynchronous
  cases sig.asyncWord <;> simp [eq_comm]

theorem checkUnit_eq_error_iff {error : ExpandError} {output : Option Ty} :
    checkUnit error output = .error f ↔
      ∃ ty, output = some ty ∧ ty.isUnit = false ∧ f = error.at ty.span := by
  unfold checkUnit
  cases output with
  | none => exact ⟨nofun, fun ⟨_, hty, _⟩ => nomatch hty⟩
  | some ty =>
    dsimp only
    constructor
    · intro hcheck
      split at hcheck
      next => cases hcheck
      next hunit =>
        cases hcheck
        exact ⟨ty, rfl, Bool.eq_false_iff.2 hunit, rfl⟩
    · rintro ⟨_, hty, hunit, rfl⟩
      cases hty
      rw [hunit]
      rfl

theorem checkArity_eq_error_iff : h.checkArity = .error f ↔
    ∃ first second more, h.call.inputs = first :: second :: more ∧
      f = ExpandError.completionHandlerArity.at second.span := by
  unfold checkArity
  split
  next first second more hinputs => simp [hinputs, eq_comm]
  next hinputs =>
    constructor
    · exact nofun
    · rintro ⟨first, second, more, hsome, -⟩
      exact absurd hsome (hinputs first second more)

theorem checkPayload_eq_error_iff : h.checkPayload = .error f ↔
    ∃ payload more span, h.call.inputs = payload :: more ∧ payload.elided? = some span ∧
      f = (ExpandError.elidedPayloadLifetime payload.tokens.render).at span := by
  unfold checkPayload payload?
  cases h.call.inputs with
  | nil => exact ⟨nofun, fun ⟨_, _, _, hinputs, _⟩ => nomatch hinputs⟩
  | cons payload more =>
    dsimp only [List.head?_cons]
    constructor
    · intro hcheck
      split at hcheck
      next => cases hcheck
      next span helided =>
        cases hcheck
        exact ⟨payload, more, span, rfl, helided, rfl⟩
    · rintro ⟨_, _, span, hinputs, helided, rfl⟩
      cases hinputs
      rw [helided]

/-- An objection is what the check at its rank finds. -/
theorem check_of_objects (hall : ∀ h, sig.Takes h ↔ handler = some h) {rank : Nat}
    (hobjects : sig.Objects rank f) : (checks sig handler)[rank]? = some (.error f) := by
  cases hobjects with
  | alreadyAsync hasync =>
    exact congrArg some (checkSynchronous_eq_error_iff.2 ⟨_, hasync, rfl⟩)
  | nonUnitReturn houtput hunit =>
    exact congrArg some (checkUnit_eq_error_iff.2 ⟨_, houtput, hunit, rfl⟩)
  | missing hnone =>
    cases handler with
    | none => rfl
    | some h => exact absurd ((hall h).2 rfl) (hnone h)
  | returnsValue htakes houtput hunit =>
    obtain rfl := (hall _).1 htakes
    exact congrArg some (checkUnit_eq_error_iff.2 ⟨_, houtput, hunit, rfl⟩)
  | arity htakes hinputs =>
    obtain rfl := (hall _).1 htakes
    exact congrArg some (checkArity_eq_error_iff.2 ⟨_, _, _, hinputs, rfl⟩)
  | elided htakes hinputs hplaces hfree hfirst =>
    obtain rfl := (hall _).1 htakes
    have helided := Ty.elided?_eq_some_iff.2 ⟨_, _, _, hplaces, hfree, rfl, hfirst⟩
    exact congrArg some (checkPayload_eq_error_iff.2 ⟨_, _, _, hinputs, helided, rfl⟩)

/-- What a check of a handler finds is an objection at the rank of the check. -/
theorem objects_of_handlerCheck (htakes : sig.Takes h) {rank : Nat}
    (hcheck : (checks sig (some h))[rank + 2]? = some (.error f)) : sig.Objects (rank + 2) f := by
  match rank with
  | 0 => cases hcheck
  | 1 =>
    obtain ⟨ty, houtput, hunit, rfl⟩ := checkUnit_eq_error_iff.1 (Option.some.inj hcheck)
    exact .returnsValue htakes houtput hunit
  | 2 =>
    obtain ⟨first, second, more, hinputs, rfl⟩ :=
      checkArity_eq_error_iff.1 (Option.some.inj hcheck)
    exact .arity htakes hinputs
  | 3 =>
    obtain ⟨payload, more, span, hinputs, helided, rfl⟩ :=
      checkPayload_eq_error_iff.1 (Option.some.inj hcheck)
    obtain ⟨before, place, behind, hplaces, hfree, rfl, hfirst⟩ :=
      Ty.elided?_eq_some_iff.1 helided
    exact .elided htakes hinputs hplaces hfree hfirst
  | rank + 4 => cases hcheck

/-- What a check finds is an objection at its rank. -/
theorem objects_of_check (hall : ∀ h, sig.Takes h ↔ handler = some h) {rank : Nat}
    (hcheck : (checks sig handler)[rank]? = some (.error f)) : sig.Objects rank f := by
  match rank with
  | 0 =>
    obtain ⟨span, hasync, rfl⟩ := checkSynchronous_eq_error_iff.1 (Option.some.inj hcheck)
    exact .alreadyAsync hasync
  | 1 =>
    obtain ⟨ty, houtput, hunit, rfl⟩ := checkUnit_eq_error_iff.1 (Option.some.inj hcheck)
    exact .nonUnitReturn houtput hunit
  | rank + 2 =>
    cases handler with
    | some h => exact objects_of_handlerCheck ((hall h).2 rfl) hcheck
    | none =>
      match rank with
      | 0 =>
        cases hcheck
        exact .missing fun h htakes => nomatch (hall h).1 htakes
      | rank + 1 => cases hcheck

/-- **Objections are what the checks find**, each at its rank. -/
theorem objects_iff (hall : ∀ h, sig.Takes h ↔ handler = some h) {rank : Nat} :
    sig.Objects rank f ↔ (checks sig handler)[rank]? = some (.error f) :=
  ⟨check_of_objects hall, objects_of_check hall⟩

theorem judged_error_iff (hall : ∀ h, sig.Takes h ↔ handler = some h) :
    sig.Judged (.error f) ↔ (checks sig handler).forM id = .error f := by
  rw [forM_eq_error_iff]
  simp only [← objects_iff hall, ne_eq]
  constructor
  · intro hjudged
    cases hjudged with
    | refused hobjects hfirst => exact ⟨_, hobjects, hfirst⟩
  · rintro ⟨rank, hobjects, hfirst⟩
    exact .refused hobjects hfirst

theorem judged_ok_iff (hall : ∀ h, sig.Takes h ↔ handler = some h) :
    sig.Judged (.ok h) ↔ handler = some h ∧ (checks sig handler).forM id = .ok () := by
  rw [forM_eq_ok_iff, ← hall]
  simp only [← objects_iff hall, ne_eq]
  constructor
  · intro hjudged
    cases hjudged with
    | accepted htakes hnone => exact ⟨htakes, fun i f => hnone i f⟩
  · exact fun haccepted => .accepted haccepted.1 haccepted.2

/-- **What is found is the judgement** where handlers are found. -/
theorem judged_iff (hall : ∀ h, sig.Takes h ↔ last? sig = some h)
    {result : Except Failure CompletionHandler} :
    ofSignature sig = result ↔ sig.Judged result := by
  cases result with
  | ok h => rw [judged_ok_iff hall, ofSignature_eq_ok_iff]
  | error f => rw [judged_error_iff hall, ofSignature_eq_error_iff]

/-- The type parameter that the handler is of is all that its type depends on. -/
theorem ofTy?_congr (hcall : ∀ {span : Span} {path : Path} {name : Ident},
    ty.peel = .path span none path → path.ident? = some name →
      g'.callOf? name = g.callOf? name) : ofTy? g' ty = ofTy? g ty := by
  induction ty using ofTy?.induct with
  | case1 span elem ih => exact ih hcall
  | case2 span elem ih => exact ih hcall
  | case3 span bounds trailing => rfl
  | case4 span ampersand lifetime mutable span' word bounds trailing => rfl
  | case5 span path =>
    have hpath : ofPath? g' path = ofPath? g path := by
      unfold ofPath?
      cases hident : path.ident? with
      | none => rfl
      | some name =>
        have hsame := hcall rfl hident
        simp [hsame]
    exact hpath
  | case6 ty h1 h2 h3 h4 h5 => simp [ofTy?]

/-- Signatures that agree have the same handler. -/
theorem last?_of_agrees (hagrees : sig.Agrees sig') : last? sig' = last? sig := by
  rw [last?_eq, last?_eq, hagrees.lastTy?]
  cases hty : sig.lastTy? with
  | none => rfl
  | some ty =>
    refine ofTy?_congr fun hpeel hname => ?_
    rw [Generics.callOf?_eq, Generics.callOf?_eq, hagrees.bounds hty hpeel hname]

/-- The judgement depends on nothing else. -/
theorem ofSignature_of_agrees (hagrees : sig.Agrees sig') : ofSignature sig' = ofSignature sig := by
  have hchecks (handler : Option CompletionHandler) :
      checks sig' handler = checks sig handler := by
    cases handler <;>
      simp only [checks, handlerChecks, checkSynchronous, hagrees.asyncWord, hagrees.output,
        hagrees.place]
  rw [ofSignature_eq, ofSignature_eq, last?_of_agrees hagrees, hchecks, hagrees.place]

/-- A handler is looked for where the checks before that pass. -/
theorem handlerSought_iff : sig.HandlerSought ↔
    checkSynchronous sig = .ok () ∧ checkUnit .nonUnitReturn sig.output = .ok () := by
  constructor
  · rintro ⟨hsynchronous, hunit⟩
    refine ⟨by rw [checkSynchronous, hsynchronous], ?_⟩
    unfold checkUnit
    cases houtput : sig.output with
    | none => rfl
    | some ty => exact if_pos (hunit ty houtput)
  · rintro ⟨hasync, hunit⟩
    refine ⟨?_, fun ty houtput => ?_⟩
    · unfold checkSynchronous at hasync
      split at hasync
      next hnone => exact hnone
      next => cases hasync
    · by_contra hnot
      have hfails : checkUnit .nonUnitReturn sig.output = .error _ :=
        checkUnit_eq_error_iff.2 ⟨ty, houtput, by simpa using hnot, rfl⟩
      rw [hunit] at hfails
      cases hfails

/-- Without a handler the checks find that it is missing, if they come to that. -/
theorem forM_of_none (hsought : sig.HandlerSought) : (checks sig none).forM id =
    .error (ExpandError.missingCompletionHandler.at sig.name.span) := by
  obtain ⟨hasync, hunit⟩ := handlerSought_iff.1 hsought
  rw [checks, hasync, hunit]
  rfl

/-- Where a handler is overlooked, the function is refused for want of one. -/
theorem ofSignature_of_overlooked (hover : sig.Overlooked) :
    ofSignature sig = .error (ExpandError.missingCompletionHandler.at sig.name.span) := by
  obtain ⟨h, htakes, hbox⟩ := hover.handler
  have hlast : last? sig = none := by
    rcases last?_of_takes htakes with hlast | ⟨-, hlast⟩
    · rcases takes_of_last? hlast with ⟨-, hnot⟩ | hseems
      · exact absurd hbox hnot
      · exact absurd htakes (not_takes_of_seemsToTake hseems)
    · exact hlast
  rw [ofSignature_eq_error_iff, hlast, forM_of_none hover.toHandlerSought]

/-- A function that takes no handler is judged for want of one, if this is looked for. -/
theorem judged_of_not_takes (hsought : sig.HandlerSought) (hnone : ∀ h, ¬ sig.Takes h) :
    sig.Judged (.error (ExpandError.missingCompletionHandler.at sig.name.span)) := by
  have hall (h : CompletionHandler) : sig.Takes h ↔ none = some h :=
    ⟨fun htakes => absurd htakes (hnone h), nofun⟩
  exact (judged_error_iff hall).2 (forM_of_none hsought)

/-- A function with a handler is not refused for want of one. -/
theorem ofSignature_ne_missing (hlast : last? sig = some h) :
    ofSignature sig ≠ .error (ExpandError.missingCompletionHandler.at sig.name.span) := by
  rw [ne_eq, ofSignature_eq_error_iff, hlast, forM_eq_error_iff]
  rintro ⟨i, hcheck, -⟩
  -- no check has this outcome, whatever its rank
  match i with
  | 0 =>
    obtain ⟨_, -, hfailure⟩ := checkSynchronous_eq_error_iff.1 (Option.some.inj hcheck)
    cases hfailure
  | 1 | 3 =>
    obtain ⟨ty, -, -, hfailure⟩ := checkUnit_eq_error_iff.1 (Option.some.inj hcheck)
    cases hfailure
  | 2 => cases hcheck
  | 4 =>
    obtain ⟨_, _, _, -, hfailure⟩ := checkArity_eq_error_iff.1 (Option.some.inj hcheck)
    cases hfailure
  | 5 =>
    obtain ⟨_, _, _, -, -, hfailure⟩ := checkPayload_eq_error_iff.1 (Option.some.inj hcheck)
    cases hfailure
  | i + 6 => cases hcheck

/-- Before the handler is looked for, the first check that fails is what is found. -/
theorem exists_forM_eq_error (hearly : ¬ sig.HandlerSought) :
    ∃ f, ∀ handler, (checks sig handler).forM id = .error f := by
  cases hasync : checkSynchronous sig with
  | error f =>
    refine ⟨f, fun handler => ?_⟩
    rw [checks, hasync]
    rfl
  | ok _ =>
    cases hunit : checkUnit .nonUnitReturn sig.output with
    | error f =>
      refine ⟨f, fun handler => ?_⟩
      rw [checks, hasync, hunit]
      rfl
    | ok _ => exact absurd (handlerSought_iff.2 ⟨hasync, hunit⟩) hearly

/-- A signature takes one handler at most. -/
theorem exists_takes_iff (sig : Signature) :
    ∃ handler, ∀ h, sig.Takes h ↔ handler = some h := by
  by_cases htakes : ∃ h, sig.Takes h
  · obtain ⟨h, htakes⟩ := htakes
    exact ⟨some h, takes_iff_of_takes htakes⟩
  · exact ⟨none, fun h => ⟨fun hh => absurd ⟨h, hh⟩ htakes, nofun⟩⟩

/-- **What is found is the judgement** unless a handler is overlooked, or something else is mistaken
for one. -/
theorem judged_of_not_misjudged (hover : ¬ sig.Overlooked) (hmistaken : ¬ sig.Mistaken)
    {result : Except Failure CompletionHandler} : ofSignature sig = result ↔ sig.Judged result := by
  by_cases hsought : sig.HandlerSought
  · refine judged_iff fun h => ⟨fun htakes => ?_, fun hlast => ?_⟩
    · rcases last?_of_takes htakes with hlast | ⟨hparam, -⟩
      · exact hlast
      · exact absurd ⟨hsought, h, htakes, hparam⟩ hover
    · rcases takes_of_last? hlast with ⟨htakes, -⟩ | hseems
      · exact htakes
      · exact absurd ⟨hsought, h, hseems⟩ hmistaken
  · -- an earlier check fails, so it does not matter what is found
    obtain ⟨handler, hall⟩ := exists_takes_iff sig
    obtain ⟨f, hchecks⟩ := exists_forM_eq_error hsought
    cases result with
    | ok h' => rw [judged_ok_iff hall, ofSignature_eq_ok_iff, hchecks, hchecks]; simp
    | error f' => rw [judged_error_iff hall, ofSignature_eq_error_iff, hchecks, hchecks]

/-- **The judgement is what is found**, exactly where no handler is overlooked and nothing else is
mistaken for one. A function whose handler is overlooked is refused for want of one; one with a
parameter that is mistaken for a handler would have to be refused for want of one, and is not. What
is found depends on nothing but what the checks are about. -/
theorem ofSignature_judged (sig : Signature) :
    ((∀ result, ofSignature sig = result ↔ sig.Judged result) ↔
      ¬ sig.Overlooked ∧ ¬ sig.Mistaken) ∧
    (sig.Overlooked →
      ofSignature sig = .error (ExpandError.missingCompletionHandler.at sig.name.span)) ∧
    (sig.Mistaken →
      sig.Judged (.error (ExpandError.missingCompletionHandler.at sig.name.span)) ∧
        ofSignature sig ≠ .error (ExpandError.missingCompletionHandler.at sig.name.span)) ∧
    ∀ sig', sig.Agrees sig' → ofSignature sig' = ofSignature sig := by
  have hmissed (hmistaken : sig.Mistaken) :
      sig.Judged (.error (ExpandError.missingCompletionHandler.at sig.name.span)) ∧
        ofSignature sig ≠ .error (ExpandError.missingCompletionHandler.at sig.name.span) := by
    obtain ⟨h, hseems⟩ := hmistaken.handler
    exact ⟨judged_of_not_takes hmistaken.toHandlerSought fun _ => not_takes_of_seemsToTake hseems,
      ofSignature_ne_missing (last?_of_seemsToTake hseems)⟩
  refine ⟨⟨fun hall => ⟨fun hover => ?_, fun hmistaken => ?_⟩,
    fun hnot _ => judged_of_not_misjudged hnot.1 hnot.2⟩,
    ofSignature_of_overlooked, hmissed, fun _ => ofSignature_of_agrees⟩
  · obtain ⟨h, htakes, -⟩ := hover.handler
    have hmissing := (hall _).1 (ofSignature_of_overlooked hover)
    -- the only objection of this kind is that there is no handler
    cases hmissing with
    | refused hobjects hfirst =>
      cases hobjects with
      | missing hnone => exact hnone h htakes
  · obtain ⟨hjudged, hnot⟩ := hmissed hmistaken
    exact hnot ((hall _).2 hjudged)

/-- A function whose handler is a function object is judged by its handler. -/
theorem ofSignature_judged_reference : ∃ h, h.shape = .borrowed false ∧
    ofSignature (handlerSample (referenceTo callObject)) = .ok h ∧
    (handlerSample (referenceTo callObject)).Judged (.ok h) := by
  have hfound : ∃ h, h.shape = .borrowed false ∧
      last? (handlerSample (referenceTo callObject)) = some h ∧
        ofSignature (handlerSample (referenceTo callObject)) = .ok h := ⟨_, rfl, rfl, rfl⟩
  obtain ⟨h, hshape, hlast, hok⟩ := hfound
  -- what looks like a handler is found as the name of something, and this handler is not
  have hmistaken : ¬ (handlerSample (referenceTo callObject)).Mistaken := by
    rintro ⟨-, h', ty, hty, hlooks⟩
    cases hty
    cases hlooks
  have htakes : (handlerSample (referenceTo callObject)).Takes h := by
    rcases takes_of_last? hlast with ⟨htakes, -⟩ | ⟨ty, hty, hlooks⟩
    · exact htakes
    · cases hty
      cases hlooks
  have hover : ¬ (handlerSample (referenceTo callObject)).Overlooked := by
    rintro ⟨-, h', htakes', name, hgeneric, -⟩
    rw [takes_unique htakes' htakes, hshape] at hgeneric
    cases hgeneric
  exact ⟨h, hshape, hok, ((ofSignature_judged _).1.2 ⟨hover, hmistaken⟩ _).1 hok⟩

/-- The signature of `fn f<Box: Fn(u8)>(done: Box) {}`. -/
def boxParamSample : Signature :=
  let box : Ident := .word "Box".toList (by decide)
  { handlerSample (.path .callSite none (.mk .callSite false [.mk box .none])) with
    generics := ⟨true, .callSite, [.type ⟨[], box, [callBound], false, none⟩], false, none⟩ }

/-- The signature of `fn f(done: Foo) where Foo: Fn(u8) {}`. -/
def noParamSample : Signature :=
  let name : Ident := .word "Foo".toList (by decide)
  let foo : Ty := .path .callSite none (.mk .callSite false [.mk name .none])
  { handlerSample foo with
    generics := { Generics.none with clause := some ⟨[.type none foo [callBound] false], false⟩ } }

/-- A type parameter called `Box` is passed over: its name is taken for that of a box, and a box
without arguments is no handler. And a type that is no parameter is taken for one where a predicate
is about it. -/
theorem exists_overlooked :
    (∃ h, boxParamSample.Judged (.ok h) ∧ ofSignature boxParamSample =
      .error (ExpandError.missingCompletionHandler.at boxParamSample.name.span)) ∧
    ∃ h, noParamSample.Judged
        (.error (ExpandError.missingCompletionHandler.at noParamSample.name.span)) ∧
      ofSignature noParamSample = .ok h := by
  constructor
  · have hcall : ∃ name call, callOfBounds? (boxParamSample.generics.boundsOn name) = some call ∧
        boxParamSample.generics.params = [.type ⟨[], name, [callBound], false, none⟩] ∧
        boxParamSample.lastTy? =
          some (.path .callSite none (.mk .callSite false [.mk name .none])) ∧
        (checks boxParamSample (some ⟨.generic name, call⟩)).forM id = .ok () :=
      ⟨_, _, rfl, rfl, rfl, rfl⟩
    obtain ⟨name, call, hcall, hparams, hty, hchecks⟩ := hcall
    have hdeclares : boxParamSample.generics.DeclaresType name :=
      ⟨_, hparams ▸ List.mem_singleton.2 rfl, rfl⟩
    have htakes : boxParamSample.Takes ⟨.generic name, call⟩ :=
      ⟨_, hty, .generic _ rfl hdeclares (firstAllowed_iff.2 hcall)⟩
    exact ⟨_, (judged_ok_iff (takes_iff_of_takes htakes)).2 ⟨rfl, hchecks⟩, rfl⟩
  · refine ⟨_, judged_of_not_takes ⟨rfl, nofun⟩ ?_, rfl⟩
    rintro h ⟨ty, hty, hhandler⟩
    cases hty
    cases hhandler with
    | boxed _ hlast _ _ => cases hlast
    | generic _ _ hparam _ =>
      -- there are no parameters at all
      obtain ⟨p, hp, -⟩ := hparam
      cases hp

end CompletionHandler

end DeclSynth
