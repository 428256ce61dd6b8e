import DeclSynth.Expansion.AsyncPeer.Handler
import DeclSynth.Proofs.Placeless
import Mathlib.Logic.Relation

/-!
# Parentheses around types

A pair of parentheses around a type, or an invisible group, means nothing.
`Signature.Wraps` puts one around a type that is looked at when a signature is checked:
the handler's, the one behind its `&`, the first argument of its box, and the two
results. `Signature.intended` is what is found by looking through all of them, and does
not depend on them (`intended_of_rewrapped`). What is found by the checks is that as
well, except where `misjudged?` names a refusal that parentheses bring about
(`verdict_eq`): the checks look through those around the handler's type only.
-/

namespace DeclSynth

/-! ## Wrapping -/

/-- One more pair of parentheses around a type, or one more invisible group. -/
inductive Ty.Wraps (ty : Ty) : Ty → Prop where
  | paren (span : Span) : Wraps ty (.paren span ty)
  | group (span : Span) : Wraps ty (.group span ty)

/-- One element of a list is replaced by a related one. -/
inductive OneChanged {α : Type} (R : α → α → Prop) : List α → List α → Prop where
  | intro (before : List α) {a b : α} (h : R a b) (behind : List α) :
    OneChanged R (before ++ a :: behind) (before ++ b :: behind)

/-- The result of a trait that is written like a function is wrapped. -/
inductive Bound.WrapsResult : Bound → Bound → Prop where
  | intro (parenthesized relaxed : Bool) (binder : Option Binder) (span : Span) (colon : Bool)
    (before : List Segment) (name : Ident) (inputs : List Ty) (trailing : Bool) {ty ty' : Ty}
    (h : ty.Wraps ty') :
    WrapsResult
      (.trait parenthesized relaxed binder
        (.mk span colon (before ++ [.mk name (.parenthesized inputs trailing (some ty))])))
      (.trait parenthesized relaxed binder
        (.mk span colon (before ++ [.mk name (.parenthesized inputs trailing (some ty'))])))

/-- A type is wrapped, or it is an object type and the result of one of its bounds is. -/
inductive Ty.ObjectWraps : Ty → Ty → Prop where
  | whole {ty ty' : Ty} (h : ty.Wraps ty') : ObjectWraps ty ty'
  | result (span : Span) (word : Bool) {bounds bounds' : List Bound}
    (h : OneChanged Bound.WrapsResult bounds bounds') (trailing : Bool) :
    ObjectWraps (.traitObject span word bounds trailing) (.traitObject span word bounds' trailing)

/-- The type of a handler is wrapped, or a type inside it that is looked at. -/
inductive Ty.HandlerWraps : Ty → Ty → Prop where
  | whole {ty ty' : Ty} (h : ty.Wraps ty') : HandlerWraps ty ty'
  /-- In `impl Fn() -> T`, the result. -/
  | result (span : Span) {bounds bounds' : List Bound}
    (h : OneChanged Bound.WrapsResult bounds bounds') (trailing : Bool) :
    HandlerWraps (.implTrait span bounds trailing) (.implTrait span bounds' trailing)
  /-- In `&T`, what is behind the sign. -/
  | referent (span ampersand : Span) (lifetime : Option Lifetime) (mutable : Bool) {ty ty' : Ty}
    (h : ty.ObjectWraps ty') :
    HandlerWraps (.reference span ampersand lifetime mutable ty)
      (.reference span ampersand lifetime mutable ty')
  /-- In `Box<T>`, the argument. -/
  | content (span span' : Span) (colon : Bool) (before : List Segment) {name : Ident}
    (hname : name.text = "Box") (turbofish : Bool) {ty ty' : Ty} (h : ty.ObjectWraps ty')
    (more : List GenericArgument) (trailing : Bool) :
    HandlerWraps
      (.path span none (.mk span' colon
        (before ++ [.mk name (.angle (.mk turbofish (.type ty :: more) trailing))])))
      (.path span none (.mk span' colon
        (before ++ [.mk name (.angle (.mk turbofish (.type ty' :: more) trailing))])))

/-- The result of a bound on a type parameter is wrapped. -/
inductive GenericParam.WrapsResult : GenericParam → GenericParam → Prop where
  | intro (p : TypeParam) {bounds : List Bound} (h : OneChanged Bound.WrapsResult p.bounds bounds) :
    WrapsResult (.type p) (.type { p with bounds })

/-- The result of a bound in a predicate is wrapped. -/
inductive WherePredicate.WrapsResult : WherePredicate → WherePredicate → Prop where
  | intro (binder : Option Binder) (bounded : Ty) {bounds bounds' : List Bound}
    (h : OneChanged Bound.WrapsResult bounds bounds') (trailing : Bool) :
    WrapsResult (.type binder bounded bounds trailing) (.type binder bounded bounds' trailing)

/-- A type of a signature that is looked at is wrapped: inside the last parameter's, the result,
or a result in the bounds on a type parameter. -/
inductive Signature.Wraps (s : Signature) : Signature → Prop where
  | handler {before : List Param} {attributes : List Attribute} {pat : Pat} {ty ty' : Ty}
    (hs : s.inputs = before ++ [.typed attributes pat ty]) (h : ty.HandlerWraps ty') :
    Wraps s { s with inputs := before ++ [.typed attributes pat ty'] }
  | result {ty ty' : Ty} (hs : s.output = some ty) (h : ty.Wraps ty') :
    Wraps s { s with output := some ty' }
  | param {params : List GenericParam}
    (h : OneChanged GenericParam.WrapsResult s.generics.params params) :
    Wraps s { s with generics := { s.generics with params } }
  | predicate {w : WhereClause} (hs : s.generics.clause = some w)
    {predicates : List WherePredicate}
    (h : OneChanged WherePredicate.WrapsResult w.predicates predicates) :
    Wraps s { s with generics := { s.generics with clause := some { w with predicates } } }

/-- Two signatures differ in the parentheses and groups around types that are looked at. -/
def Signature.Rewrapped : Signature → Signature → Prop := Relation.EqvGen Signature.Wraps

/-! ## Looking through -/

/-- A type without the parentheses and groups around it. -/
def Ty.peel : Ty → Ty
  | .paren _ ty => ty.peel
  | .group _ ty => ty.peel
  | ty => ty

/-- A call without the parentheses and groups around its result. -/
def CallShape.bare (c : CallShape) : CallShape := { c with output := c.output.map Ty.peel }

namespace CompletionHandler

/-- A handler without the parentheses and groups around its result. -/
def bare (h : CompletionHandler) : CompletionHandler := { h with call := h.call.bare }

/-- The handler that is made of a call, looked through. -/
def ofCall? (shape : HandlerShape) (call : Option CallShape) : Option CompletionHandler :=
  (call.map CallShape.bare).map (⟨shape, ·⟩)

/-- The handler that a function object is, looked through. -/
def throughObject? (shape : HandlerShape) (ty : Ty) : Option CompletionHandler :=
  match ty.peel with
  | .traitObject _ _ bounds _ => ofCall? shape (callOfBounds? bounds)
  | _ => none

/-- The handler that a boxed value is, looked through. -/
def throughBox? : Arguments → Option CompletionHandler
  | .angle (.mk _ (.type ty :: _) _) => throughObject? .boxed ty
  | _ => none

/-- The handler that a value of a named type is, looked through. -/
def throughPath? (g : Generics) (path : Path) : Option CompletionHandler :=
  match path.segments.getLast? with
  | none => none
  | some segment =>
    if segment.name.text == "Box" then throughBox? segment.arguments
    else path.ident?.bind fun name => ofCall? (.generic name) (g.callOf? name)

/-- The handler that a value of a type is, looked through. -/
def throughTy? (g : Generics) (ty : Ty) : Option CompletionHandler :=
  match ty.peel with
  | .implTrait _ bounds _ => ofCall? .implTrait (callOfBounds? bounds)
  | .reference _ _ _ mutable elem => throughObject? (.borrowed mutable) elem
  | .path _ none path => throughPath? g path
  | _ => none

/-- The handler that the last parameter of a function is, looked through. -/
def through? (s : Signature) : Option CompletionHandler :=
  match s.inputs.getLast? with
  | some (.typed _ _ ty) => throughTy? s.generics ty
  | _ => none

end CompletionHandler

/-! ## Verdicts -/

/-- What is known of the handler of an accepted function. -/
structure Accepted where
  shape : HandlerShape
  inputs : List Ty
  yieldsUnit : Bool

/-- What is known of a handler. -/
def CompletionHandler.accepted (h : CompletionHandler) : Accepted :=
  ⟨h.shape, h.call.inputs, h.call.output.all Ty.isUnit⟩

/-- What the checks find of a signature: its handler, or the cause of its refusal. -/
def Signature.verdict (s : Signature) : Except ExpandError Accepted :=
  placeless CompletionHandler.accepted (CompletionHandler.ofSignature s)

/-- What the last checks find, those of what a handler is called with. -/
def CompletionHandler.judgeInputs (h : CompletionHandler) : Except ExpandError Accepted :=
  placeless CompletionHandler.accepted do h.checkArity; h.checkPayload; return h

/-- What is found in a function with a result and a handler. -/
def judge (async : Bool) (output : Option Ty) (handler : Option CompletionHandler) :
    Except ExpandError Accepted :=
  if async then .error .alreadyAsync
  else if output.all Ty.isUnit then
    match handler with
    | none => .error .missingCompletionHandler
    | some h =>
      if h.call.output.all Ty.isUnit then h.judgeInputs
      else .error .completionHandlerReturnsValue
  else .error .nonUnitReturn

/-- What is found by looking through all parentheses and groups. -/
def Signature.intended (s : Signature) : Except ExpandError Accepted :=
  judge s.asyncWord.isSome (s.output.map Ty.peel) (CompletionHandler.through? s)

/-- Whether a result is the empty tuple, but in parentheses or groups. -/
def hidesUnit (output : Option Ty) : Bool :=
  !output.all Ty.isUnit && (output.map Ty.peel).all Ty.isUnit

/-- The refusal that parentheses or groups bring about: because they hide that the result is the
empty tuple, or the handler's function object, or that its result is the empty tuple. -/
def Signature.misjudged? (s : Signature) : Option ExpandError :=
  if s.asyncWord.isSome then none
  else if hidesUnit s.output then some .nonUnitReturn
  else if s.output.all Ty.isUnit then
    match CompletionHandler.last? s, CompletionHandler.through? s with
    | none, some _ => some .missingCompletionHandler
    | some h, _ => if hidesUnit h.call.output then some .completionHandlerReturnsValue else none
    | none, none => none
  else none

/-! ## What looking through does not see -/

variable {g : Generics} {s t : Signature} {ty ty' : Ty} {h : CompletionHandler}

theorem Ty.Wraps.peel_eq (h : ty.Wraps ty') : ty'.peel = ty.peel := by
  cases h <;> rfl

/-- A search finds the same in two lists that differ in one element, where this makes no
difference. -/
theorem OneChanged.findSome?_eq {α β : Type} {R : α → α → Prop} {l l' : List α} {f : α → Option β}
    (h : OneChanged R l l') (hf : ∀ a b, R a b → f a = f b) :
    l.findSome? f = l'.findSome? f := by
  obtain ⟨before, hab, behind⟩ := h
  rw [List.findSome?_append, List.findSome?_append, List.findSome?_cons, List.findSome?_cons,
    hf _ _ hab]

theorem Bound.WrapsResult.call_eq {b b' : Bound} (h : b.WrapsResult b') :
    b.call?.map CallShape.bare = b'.call?.map CallShape.bare := by
  obtain ⟨_, _, _, _, _, before, name, inputs, _, hty⟩ := h
  simp only [Bound.call?, Path.segments, List.getLast?_concat]
  split
  · simp [CallShape.bare, hty.peel_eq]
  · rfl

/-- **The call that bounds allow** does not depend on what is around results. -/
theorem callOfBounds?_of_oneChanged {bounds bounds' : List Bound}
    (h : OneChanged Bound.WrapsResult bounds bounds') :
    (callOfBounds? bounds).map CallShape.bare = (callOfBounds? bounds').map CallShape.bare := by
  unfold callOfBounds?
  rw [List.map_findSome?, List.map_findSome?]
  exact h.findSome?_eq fun _ _ hb => hb.call_eq

theorem GenericParam.WrapsResult.callOf_eq {q q' : GenericParam} (h : q.WrapsResult q')
    (name : Ident) :
    (q.callOf? name).map CallShape.bare = (q'.callOf? name).map CallShape.bare := by
  obtain ⟨p, hbounds⟩ := h
  simp only [GenericParam.callOf?]
  split
  · exact callOfBounds?_of_oneChanged hbounds
  · rfl

theorem WherePredicate.WrapsResult.callOf_eq {w w' : WherePredicate} (h : w.WrapsResult w')
    (name : Ident) :
    (w.callOf? name).map CallShape.bare = (w'.callOf? name).map CallShape.bare := by
  obtain ⟨binder, bounded, hbounds, trailing⟩ := h
  simp only [WherePredicate.callOf?]
  split
  · exact callOfBounds?_of_oneChanged hbounds
  · rfl

/-- The call that is found in one place or else in another one is bare where both are. -/
theorem map_orElse_congr {α β : Type} {f : α → β} {a a' b b' : Option α}
    (ha : a.map f = a'.map f) (hb : b.map f = b'.map f) :
    (a <|> b).map f = (a' <|> b').map f := by
  cases a <;> cases a' <;> simp_all

theorem Generics.callOf?_of_params {params : List GenericParam} (name : Ident)
    (h : OneChanged GenericParam.WrapsResult g.params params) :
    (g.callOf? name).map CallShape.bare =
      (({ g with params } : Generics).callOf? name).map CallShape.bare := by
  refine map_orElse_congr ?_ rfl
  rw [List.map_findSome?, List.map_findSome?]
  exact h.findSome?_eq fun _ _ hq => hq.callOf_eq name

theorem Generics.callOf?_of_predicates {w : WhereClause} {predicates : List WherePredicate}
    (name : Ident) (hw : g.clause = some w)
    (h : OneChanged WherePredicate.WrapsResult w.predicates predicates) :
    (g.callOf? name).map CallShape.bare =
      (({ g with clause := some { w with predicates } } : Generics).callOf? name).map
        CallShape.bare := by
  refine map_orElse_congr rfl ?_
  rw [hw, Option.bind_some, Option.bind_some, List.map_findSome?, List.map_findSome?]
  exact h.findSome?_eq fun _ _ hq => hq.callOf_eq name

namespace CompletionHandler

theorem ofCall?_congr {shape : HandlerShape} {c c' : Option CallShape}
    (h : c.map CallShape.bare = c'.map CallShape.bare) : ofCall? shape c = ofCall? shape c' := by
  rw [ofCall?, ofCall?, h]

theorem throughObject?_of_wraps (shape : HandlerShape) (h : ty.ObjectWraps ty') :
    throughObject? shape ty = throughObject? shape ty' := by
  cases h with
  | whole h => rw [throughObject?, throughObject?, h.peel_eq]
  | result span word h trailing => exact ofCall?_congr (callOfBounds?_of_oneChanged h)

/-- **The handler that a type is** does not depend on what is around it and inside it. -/
theorem throughTy?_of_wraps (g : Generics) (h : ty.HandlerWraps ty') :
    throughTy? g ty = throughTy? g ty' := by
  cases h with
  | whole h => rw [throughTy?, throughTy?, h.peel_eq]
  | result span h trailing => exact ofCall?_congr (callOfBounds?_of_oneChanged h)
  | referent span ampersand lifetime mutable h => exact throughObject?_of_wraps _ h
  | content span span' colon before hname turbofish h more trailing =>
    simp only [throughTy?, Ty.peel, throughPath?, Path.segments, List.getLast?_concat,
      Segment.name, hname, Segment.arguments]
    exact throughObject?_of_wraps _ h

/-- A type is the same handler under bounds that allow the same calls. -/
theorem throughTy?_of_callOf? {g' : Generics} (ty : Ty)
    (h : ∀ name, (g.callOf? name).map CallShape.bare = (g'.callOf? name).map CallShape.bare) :
    throughTy? g ty = throughTy? g' ty := by
  have hpath (path : Path) : throughPath? g path = throughPath? g' path := by
    have hshape (name : Ident) : ofCall? (.generic name) (g.callOf? name) =
        ofCall? (.generic name) (g'.callOf? name) := ofCall?_congr (h name)
    simp only [throughPath?, hshape]
  simp only [throughTy?, hpath]

end CompletionHandler

open CompletionHandler in
/-- **Looking through finds the same handler** however types are wrapped. -/
theorem Signature.Wraps.through_eq (h : s.Wraps t) : through? s = through? t := by
  have hcalls {g' : Generics}
      (hg : ∀ name, (s.generics.callOf? name).map CallShape.bare =
        (g'.callOf? name).map CallShape.bare) :
      through? s = through? { s with generics := g' } := by
    unfold through?
    rcases s.inputs.getLast? with - | (r | ⟨attributes, pat, ty⟩)
    · rfl
    · rfl
    · exact throughTy?_of_callOf? ty hg
  cases h with
  | handler hs h =>
    simp only [through?, hs, List.getLast?_concat]
    exact throughTy?_of_wraps _ h
  | result hs h => rfl
  | param h => exact hcalls fun name => Generics.callOf?_of_params name h
  | predicate hs h => exact hcalls fun name => Generics.callOf?_of_predicates name hs h

/-- What looking through comes to is the same for a wrapped signature. -/
theorem Signature.Wraps.intended_eq (h : s.Wraps t) : s.intended = t.intended := by
  have hrest : s.asyncWord = t.asyncWord ∧ s.output.map Ty.peel = t.output.map Ty.peel := by
    cases h with
    | result hs h => simp [hs, h.peel_eq]
    | handler hs h => exact ⟨rfl, rfl⟩
    | param h => exact ⟨rfl, rfl⟩
    | predicate hs h => exact ⟨rfl, rfl⟩
  rw [Signature.intended, Signature.intended, hrest.1, hrest.2, h.through_eq]

/-- **What looking through comes to does not depend on parentheses and groups.** -/
theorem Signature.intended_of_rewrapped (h : s.Rewrapped t) : s.intended = t.intended := by
  induction h with
  | rel s t h => exact h.intended_eq
  | refl s => rfl
  | symm s t _ ih => exact ih.symm
  | trans s t u _ _ hst htu => exact hst.trans htu

/-! ## What the checks do not see -/

namespace CompletionHandler

theorem ofTy?_peel (g : Generics) (ty : Ty) : ofTy? g ty.peel = ofTy? g ty := by
  induction ty using Ty.peel.induct with
  | case1 span ty ih => simpa [Ty.peel, ofTy?] using ih
  | case2 span ty ih => simpa [Ty.peel, ofTy?] using ih
  | case3 ty hparen hgroup => rw [Ty.peel.eq_3 ty hparen hgroup]

/-- **The checks look through what is around the handler's type.** -/
theorem ofTy?_of_wraps (g : Generics) (h : ty.Wraps ty') : ofTy? g ty' = ofTy? g ty := by
  rw [← ofTy?_peel g ty', h.peel_eq, ofTy?_peel]

theorem ofCall?_of_map {shape : HandlerShape} {c : Option CallShape}
    (hc : c.map (⟨shape, ·⟩) = some h) : ofCall? shape c = some h.bare := by
  obtain ⟨call, rfl, rfl⟩ := Option.map_eq_some_iff.1 hc
  rfl

theorem throughBox?_of_ofBox? {arguments : Arguments} (h' : ofBox? arguments = some h) :
    throughBox? arguments = some h.bare := by
  unfold ofBox? at h'
  split at h'
  · exact ofCall?_of_map h'
  · cases h'

theorem throughPath?_of_ofPath? {path : Path} (hpath : ofPath? g path = some h) :
    throughPath? g path = some h.bare := by
  unfold ofPath? at hpath
  unfold throughPath?
  cases hlast : path.segments.getLast? with
  | none => simp [hlast] at hpath
  | some segment =>
    rw [hlast] at hpath
    dsimp only at hpath ⊢
    split at hpath
    next hbox =>
      rw [if_pos hbox]
      exact throughBox?_of_ofBox? hpath
    next hbox =>
      rw [if_neg hbox]
      obtain ⟨name, hname, hpath⟩ := Option.bind_eq_some_iff.1 hpath
      obtain ⟨call, hcall, hpath⟩ := Option.bind_eq_some_iff.1 hpath
      rw [hname, Option.bind_some, hcall, ← Option.some.inj hpath]
      rfl

/-- **A handler that the checks find is found by looking through.** -/
theorem throughTy?_of_ofTy? (hty : ofTy? g ty = some h) : throughTy? g ty = some h.bare := by
  induction ty using ofTy?.induct with
  | case1 span elem ih => exact ih hty
  | case2 span elem ih => exact ih hty
  | case3 span bounds trailing => exact ofCall?_of_map hty
  | case4 span ampersand lifetime mutable span' word bounds trailing => exact ofCall?_of_map hty
  | case5 span path => exact throughPath?_of_ofPath? hty
  | case6 ty h1 h2 h3 h4 h5 => simp [ofTy?] at hty

theorem through?_of_last? (hlast : last? s = some h) : through? s = some h.bare := by
  unfold last? at hlast
  unfold through?
  rcases hinputs : s.inputs.getLast? with - | (r | ⟨attributes, pat, ty⟩)
  · simp [hinputs] at hlast
  · simp [hinputs] at hlast
  · rw [hinputs] at hlast
    exact throughTy?_of_ofTy? hlast

/-- What the last checks complain about. -/
theorem cause_of_judgeInputs {e : ExpandError} (he : h.judgeInputs = .error e) :
    e = .completionHandlerArity ∨ ∃ payload, e = .elidedPayloadLifetime payload := by
  unfold judgeInputs checkArity checkPayload at he
  split at he
  · exact .inl (Except.error.inj he).symm
  · split at he
    · cases he
    · split at he
      · cases he
      · exact .inr ⟨_, (Except.error.inj he).symm⟩

end CompletionHandler

/-! ## Verdicts -/

theorem Ty.peel_of_isUnit (hty : ty.isUnit = true) : ty.peel = ty := by
  unfold isUnit at hty
  split at hty
  · rfl
  · cases hty

theorem map_peel_of_all_isUnit {output : Option Ty} (ho : output.all Ty.isUnit = true) :
    output.map Ty.peel = output := by
  cases output with
  | none => rfl
  | some ty => exact congrArg some (Ty.peel_of_isUnit ho)

theorem CompletionHandler.bare_of_all_isUnit (ho : h.call.output.all Ty.isUnit = true) :
    h.bare = h := by
  rw [bare, CallShape.bare, map_peel_of_all_isUnit ho]

theorem CompletionHandler.checkUnit_eq (error : ExpandError) (output : Option Ty) :
    checkUnit error output = if output.all Ty.isUnit then .ok ()
      else .error (error.at ((output.map Ty.span).getD .callSite)) := by
  cases output <;> rfl

/-- The checks find what there is to find in a function with its result and its handler. -/
theorem Signature.verdict_eq_judge (s : Signature) :
    s.verdict = judge s.asyncWord.isSome s.output (CompletionHandler.last? s) := by
  unfold verdict CompletionHandler.ofSignature CompletionHandler.checkSynchronous judge
  rw [CompletionHandler.checkUnit_eq]
  cases s.asyncWord with
  | some span => rfl
  | none =>
    cases s.output.all Ty.isUnit with
    | false => rfl
    | true =>
      cases CompletionHandler.last? s with
      | none => rfl
      | some h =>
        dsimp only
        rw [CompletionHandler.checkUnit_eq]
        cases h.call.output.all Ty.isUnit <;> rfl

/-- **The checks come to what looking through comes to**, except where parentheses or groups bring
about a refusal. -/
theorem Signature.verdict_eq (s : Signature) :
    s.verdict = s.misjudged?.elim s.intended .error := by
  rw [verdict_eq_judge]
  unfold misjudged? intended judge hidesUnit
  cases s.asyncWord.isSome with
  | true => rfl
  | false =>
    cases houtput : s.output.all Ty.isUnit with
    | false => cases (s.output.map Ty.peel).all Ty.isUnit <;> rfl
    | true =>
      rw [map_peel_of_all_isUnit houtput, houtput]
      cases hlast : CompletionHandler.last? s with
      | none => cases CompletionHandler.through? s <;> rfl
      | some h =>
        rw [CompletionHandler.through?_of_last? hlast]
        cases hresult : h.call.output.all Ty.isUnit with
        | true =>
          rw [CompletionHandler.bare_of_all_isUnit hresult]
          simp [hresult]
        | false =>
          have hbare : h.bare.call.output = h.call.output.map Ty.peel := rfl
          cases hpeeled : (h.call.output.map Ty.peel).all Ty.isUnit <;>
            simp [hresult, hbare, hpeeled]

/-- Why a function that yields nothing is refused. -/
theorem cause_of_judge {output : Option Ty} {handler : Option CompletionHandler} {e : ExpandError}
    (ho : output.all Ty.isUnit = true) (he : judge false output handler = .error e) :
    (handler = none ∧ e = .missingCompletionHandler) ∨
      ∃ h, handler = some h ∧
        ((h.call.output.all Ty.isUnit = false ∧ e = .completionHandlerReturnsValue) ∨
          e = .completionHandlerArity ∨ ∃ payload, e = .elidedPayloadLifetime payload) := by
  unfold judge at he
  rw [if_neg Bool.false_ne_true, if_pos ho] at he
  cases handler with
  | none => exact .inl ⟨rfl, (Except.error.inj he).symm⟩
  | some h =>
    refine .inr ⟨h, rfl, ?_⟩
    dsimp only at he
    split at he
    · exact .inr (CompletionHandler.cause_of_judgeInputs he)
    · rename_i hunit
      exact .inl ⟨Bool.eq_false_iff.2 hunit, (Except.error.inj he).symm⟩

/-- Looking through does not lead to a refusal that parentheses or groups bring about. -/
theorem Signature.intended_ne_of_misjudged {e : ExpandError} (he : s.misjudged? = some e) :
    s.intended ≠ .error e := by
  intro hintended
  unfold misjudged? at he
  unfold intended at hintended
  split at he
  · cases he
  rename_i hasync
  rw [Bool.eq_false_iff.2 hasync] at hintended
  split at he
  -- the result is the empty tuple, so it is not what is complained about
  · rename_i hhides
    cases he
    rw [hidesUnit, Bool.and_eq_true] at hhides
    obtain ⟨-, ⟨⟩⟩ | ⟨h, -, ⟨-, ⟨⟩⟩ | ⟨⟨⟩⟩ | ⟨-, ⟨⟩⟩⟩ := cause_of_judge hhides.2 hintended
  split at he
  · rename_i hunit
    rw [map_peel_of_all_isUnit hunit] at hintended
    have hcause := cause_of_judge hunit hintended
    split at he
    -- a handler is found by looking through
    · rename_i h hlast hthrough
      cases he
      rw [hthrough] at hcause
      obtain ⟨⟨⟩, -⟩ | ⟨h, -, ⟨-, ⟨⟩⟩ | ⟨⟨⟩⟩ | ⟨-, ⟨⟩⟩⟩ := hcause
    -- and its result is the empty tuple
    · rename_i h hlast
      split at he
      · rename_i hhides
        cases he
        rw [CompletionHandler.through?_of_last? hlast] at hcause
        rw [hidesUnit, Bool.and_eq_true] at hhides
        obtain ⟨⟨⟩, -⟩ | ⟨h, ⟨⟩, ⟨hvalue, -⟩ | ⟨⟨⟩⟩ | ⟨-, ⟨⟩⟩⟩ := hcause
        exact absurd (hvalue.symm.trans hhides.2) Bool.false_ne_true
      · cases he
    · cases he
  · cases he

/-- **Two signatures that differ in parentheses and groups get the same verdict** exactly where
these bring about the same refusal, or none. -/
theorem Signature.verdict_eq_verdict_iff (h : s.Rewrapped t) :
    s.verdict = t.verdict ↔ s.misjudged? = t.misjudged? := by
  refine ⟨fun heq => ?_, fun heq => by rw [verdict_eq, verdict_eq, intended_of_rewrapped h, heq]⟩
  rw [verdict_eq, verdict_eq] at heq
  cases hs : s.misjudged? with
  | none =>
    cases ht : t.misjudged? with
    | none => rfl
    | some e =>
      rw [hs, ht, Option.elim_none, Option.elim_some, intended_of_rewrapped h] at heq
      exact absurd heq (intended_ne_of_misjudged ht)
  | some e =>
    cases ht : t.misjudged? with
    | none =>
      rw [hs, ht, Option.elim_none, Option.elim_some, ← intended_of_rewrapped h] at heq
      exact absurd heq.symm (intended_ne_of_misjudged hs)
    | some e' =>
      rw [hs, ht] at heq
      exact congrArg some (Except.error.inj heq)

/-- The signature with these parameters and, behind them, one of a type. -/
def Signature.withLast (s : Signature) (before : List Param) (attributes : List Attribute)
    (pat : Pat) (ty : Ty) : Signature :=
  { s with inputs := before ++ [.typed attributes pat ty] }

/-- **Where parentheses matter.** A pair of them, or an invisible group, around the type of the
handler never changes the verdict on a signature. Around the other types that are looked at they
change it exactly where they hide the empty tuple or a function object from the checks: two
signatures that differ in nothing else get the same verdict if and only if the same refusal, or
none, is brought about in this way. -/
theorem Signature.verdict_of_rewrapped (s : Signature) :
    (∀ (before : List Param) (attributes : List Attribute) (pat : Pat) (ty ty' : Ty),
      ty.Wraps ty' → (s.withLast before attributes pat ty').verdict =
        (s.withLast before attributes pat ty).verdict) ∧
    ∀ t : Signature, s.Rewrapped t → (s.verdict = t.verdict ↔ s.misjudged? = t.misjudged?) := by
  refine ⟨fun before attributes pat ty ty' h => ?_, fun t => verdict_eq_verdict_iff⟩
  have hlast : CompletionHandler.last? (s.withLast before attributes pat ty') =
      CompletionHandler.last? (s.withLast before attributes pat ty) := by
    simp only [CompletionHandler.last?, withLast, List.getLast?_concat]
    exact CompletionHandler.ofTy?_of_wraps s.generics h
  rw [verdict_eq_judge, verdict_eq_judge, hlast]
  rfl

/-! ## Samples -/

/-- `fn f(done: ..) {}`, with a type for the handler. -/
def handlerSample (ty : Ty) : Signature :=
  { constWord := false, asyncWord := none, qualifiers := [], name := .word ['f'] (by decide)
    generics := .none, inputs := [.typed [] (.binding false (.word "done".toList (by decide))) ty]
    trailingComma := false, variadic := [], output := none }

/-- A sample is wrapped as the type of its handler is. -/
theorem wraps_handlerSample {ty ty' : Ty} (h : ty.HandlerWraps ty') :
    (handlerSample ty).Wraps (handlerSample ty') :=
  @Signature.Wraps.handler (handlerSample ty) [] _ _ _ _ rfl h

/-- `Fn(u8)`, written in a type. -/
def callBound : Bound :=
  .ofPath (.mk .callSite false [.mk (.word "Fn".toList (by decide)) (.parenthesized
    [.path .callSite none (.mk .callSite false [.mk (.word "u8".toList (by decide)) .none])]
    false none)])

/-- `&ty` -/
def referenceTo (ty : Ty) : Ty := .reference .callSite .callSite none false ty

/-- `dyn Fn(u8)` -/
def callObject : Ty := .traitObject .callSite true [callBound] false

/-- `(&dyn Fn(u8))` is a handler as `&dyn Fn(u8)` is, and both get the same verdict. -/
theorem Signature.verdict_of_rewrapped_reference :
    (handlerSample (.paren .callSite (referenceTo callObject))).verdict =
        (handlerSample (referenceTo callObject)).verdict ∧
      (handlerSample (referenceTo callObject)).Rewrapped
        (handlerSample (.paren .callSite (referenceTo callObject))) ∧
      (handlerSample (referenceTo callObject)).verdict =
        (handlerSample (.paren .callSite (referenceTo callObject))).verdict := by
  have hwraps : (handlerSample (referenceTo callObject)).Rewrapped
      (handlerSample (.paren .callSite (referenceTo callObject))) :=
    .rel _ _ (wraps_handlerSample (.whole (.paren _)))
  exact ⟨(verdict_of_rewrapped (handlerSample callObject)).1 [] [] _ _ _ (.paren _), hwraps,
    ((verdict_of_rewrapped _).2 _ hwraps).2 (by decide +kernel)⟩

/-- `&dyn Fn(u8)` is a handler and `&(dyn Fn(u8))` is none: the parentheses hide the object type,
where the language asks for them as soon as there is a second bound. -/
theorem Signature.exists_misjudged : ∃ s t : Signature, s.Wraps t ∧
    s.verdict ≠ t.verdict ∧ t.verdict = .error .missingCompletionHandler := by
  have hwraps : (handlerSample (referenceTo callObject)).Wraps
      (handlerSample (referenceTo (.paren .callSite callObject))) :=
    wraps_handlerSample (.referent _ _ _ _ (.whole (.paren _)))
  refine ⟨_, _, hwraps, fun heq => ?_, rfl⟩
  have hsame := (verdict_eq_verdict_iff (.rel _ _ hwraps)).1 heq
  exact absurd hsame (by decide +kernel)

end DeclSynth
