import DeclSynth.Declaration
import DeclSynth.ExpandError
import DeclSynth.Expansion.AsyncPeer.Lifetime

/-!
# Completion handlers

A function with a completion handler takes, as its last parameter, something to call
when it is done: a value of a type that implements one of the function traits, a boxed
or borrowed function object, or a value of a type parameter with such a bound.
`CompletionHandler.ofSignature` finds the handler and checks, in a fixed order, what an
asynchronous peer needs of the signature.
-/

namespace DeclSynth

/-- How the handler's parameter is typed. -/
inductive HandlerShape where
  /-- `impl Fn(T)` -/
  | implTrait
  /-- `Box<dyn Fn(T)>` -/
  | boxed
  /-- `&dyn Fn(T)`, or `&mut dyn FnMut(T)` -/
  | borrowed (mutable : Bool)
  /-- A type parameter with such a bound. -/
  | generic (name : Ident)

/-- The arguments and the result of a call. -/
structure CallShape where
  inputs : List Ty
  output : Option Ty

/-- A completion handler. -/
structure CompletionHandler where
  shape : HandlerShape
  call : CallShape

/-! ## Finding the handler -/

/-- The call that a bound allows, if it is one of the function traits. -/
def Bound.call? : Bound → Option CallShape
  | .trait _ _ _ path =>
    match path.segments.getLast? with
    | some (.mk name (.parenthesized inputs _ output)) =>
      if ["Fn", "FnMut", "FnOnce"].contains name.text then some ⟨inputs, output⟩ else none
    | _ => none
  | .lifetime _ | .capture .. | .verbatim _ => none

/-- The call that the first function trait among bounds allows. -/
def callOfBounds? (bounds : List Bound) : Option CallShape := bounds.findSome? Bound.call?

/-- Whether a type is this one name. -/
def Ty.isIdent (ty : Ty) (name : Ident) : Bool :=
  match ty with
  | .path _ none p => p.isIdent name.text
  | _ => false

/-- The call that the bounds on a type parameter allow where it is declared. -/
def GenericParam.callOf? (name : Ident) : GenericParam → Option CallShape
  | .type p => if p.name.sameName name then callOfBounds? p.bounds else none
  | .lifetime _ | .const _ => none

/-- The call that a predicate on a type parameter allows. -/
def WherePredicate.callOf? (name : Ident) : WherePredicate → Option CallShape
  | .type _ bounded bounds _ => if bounded.isIdent name then callOfBounds? bounds else none
  | .lifetime .. => none

/-- The call that the bounds on a type parameter allow, where it is declared or else in the where
clause. -/
def Generics.callOf? (g : Generics) (name : Ident) : Option CallShape :=
  g.params.findSome? (GenericParam.callOf? name) <|>
    g.clause.bind fun w => w.predicates.findSome? (WherePredicate.callOf? name)

namespace CompletionHandler

/-- The handler that a boxed value is: its first argument is a function object. -/
def ofBox? (arguments : Arguments) : Option CompletionHandler :=
  match arguments with
  | .angle (.mk _ (.type (.traitObject _ _ bounds _) :: _) _) =>
    (callOfBounds? bounds).map (⟨.boxed, ·⟩)
  | _ => none

/-- The handler that a value of a named type is. -/
def ofPath? (g : Generics) (path : Path) : Option CompletionHandler :=
  match path.segments.getLast? with
  | none => none
  | some segment =>
    if segment.name.text == "Box" then ofBox? segment.arguments
    else do
      let name ← path.ident?
      return ⟨.generic name, ← g.callOf? name⟩

/-- The handler that a value of a type is. Parentheses around the type do not matter. -/
def ofTy? (g : Generics) : Ty → Option CompletionHandler
  | .paren _ elem => ofTy? g elem
  | .group _ elem => ofTy? g elem
  | .implTrait _ bounds _ => (callOfBounds? bounds).map (⟨.implTrait, ·⟩)
  | .reference _ _ _ mutable (.traitObject _ _ bounds _) =>
    (callOfBounds? bounds).map (⟨.borrowed mutable, ·⟩)
  | .path _ none path => ofPath? g path
  | _ => none

/-- The handler that the last parameter of a function is. -/
def last? (sig : Signature) : Option CompletionHandler :=
  match sig.inputs.getLast? with
  | some (.typed _ _ ty) => ofTy? sig.generics ty
  | _ => none

/-! ## Checking the signature -/

/-- What the handler is called with, if anything. -/
def payload? (h : CompletionHandler) : Option Ty := h.call.inputs.head?

/-- Checks that a result is the empty tuple, or none is written. -/
def checkUnit (error : ExpandError) : Option Ty → Except Failure Unit
  | none => .ok ()
  | some ty => if ty.isUnit then .ok () else .error (error.at ty.span)

/-- Checks that the handler takes at most one argument. -/
def checkArity (h : CompletionHandler) : Except Failure Unit :=
  match h.call.inputs with
  | _ :: second :: _ => .error (ExpandError.completionHandlerArity.at second.span)
  | _ => .ok ()

/-- Checks that what the handler is called with leaves no lifetime out. -/
def checkPayload (h : CompletionHandler) : Except Failure Unit :=
  match h.payload? with
  | none => .ok ()
  | some payload =>
    match payload.elided? with
    | none => .ok ()
    | some span => .error ((ExpandError.elidedPayloadLifetime payload.tokens.render).at span)

/-- Checks that the function is not asynchronous. -/
def checkSynchronous (sig : Signature) : Except Failure Unit :=
  match sig.asyncWord with
  | none => .ok ()
  | some span => .error (ExpandError.alreadyAsync.at span)

/-- The handler of a function that an asynchronous peer can be made for. -/
def ofSignature (sig : Signature) : Except Failure CompletionHandler := do
  checkSynchronous sig
  checkUnit .nonUnitReturn sig.output
  match last? sig with
  | none => .error (ExpandError.missingCompletionHandler.at sig.name.span)
  | some h =>
    checkUnit .completionHandlerReturnsValue h.call.output
    h.checkArity
    h.checkPayload
    return h

/-- Whether a type is a `Result` with both of its arguments spelled out. -/
def isTwoArmedResult : Ty → Bool
  | .path _ none path =>
    match path.segments.getLast? with
    | some (.mk name (.angle (.mk _ arguments _))) =>
      name.text == "Result" &&
        arguments.countP (fun | .type _ => true | _ => false) == 2
    | _ => false
  | _ => false

/-- Whether what the handler is called with tells success from failure. -/
def isFallible (h : CompletionHandler) : Bool :=
  match h.payload? with
  | some payload => isTwoArmedResult payload
  | none => false

end CompletionHandler

end DeclSynth
