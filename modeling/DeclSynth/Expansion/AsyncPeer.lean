import DeclSynth.Config.Runtime
import DeclSynth.Expansion.AsyncPeer.Handler
import DeclSynth.Expansion.InContext

/-!
# Asynchronous peers

A function that takes a completion handler gets a peer that takes none: it calls the
function with a handler of its own, which resumes a continuation, and waits for that.
The peer declares what the function declares, except for the type parameter of the
handler.
-/

namespace DeclSynth

/-- How a peer calls its function. -/
inductive Callee where
  /-- As a method of `self`. -/
  | method
  /-- As a function of the type itself. -/
  | associated
  /-- By its name. -/
  | free
deriving DecidableEq, Repr

/-- An asynchronous peer: the function it belongs to, the function's handler, the peer's own
signature, and the names under which it passes its parameters on. -/
structure AsyncPeer where
  original : FnItem
  handler : CompletionHandler
  sig : Signature
  forwarded : List Ident
  callee : Callee
  runtime : Path

namespace AsyncPeer

/-- What `#[add_async]` takes. -/
def spec : ArgumentSpec := ⟨"#[add_async]", ["crate"], [], .optional⟩

/-- The flag that tells that the function belongs to a type. -/
def inImpl : String := "in_impl"

/-- Whether the flag is given. -/
def inImplFlag (args : ArgumentList) : Except Failure Bool :=
  match args.positional with
  | none => .ok false
  | some value =>
    let refuse :=
      .error ((ExpandError.invalidArgument inImpl "the bare flag `in_impl`").at value.span)
    match value.outline with
    | .path _ path => if path.isIdent inImpl then .ok true else refuse
    | _ => refuse

/-! ## The signature -/

/-- Whether a parameter is the type parameter of this name. -/
def isTypeParam (name : Ident) : GenericParam → Bool
  | .type p => p.name.sameName name
  | .lifetime _ | .const _ => false

/-- Whether a predicate is about the type of this name. -/
def isAbout (name : Ident) : WherePredicate → Bool
  | .type _ bounded _ _ => bounded.isIdent name
  | .lifetime .. => false

/-- A where clause without the predicates about a type parameter; none if no other is left. -/
def withoutPredicates (name : Ident) (w : WhereClause) : Option WhereClause :=
  let predicates := w.predicates.filter (!isAbout name ·)
  if predicates.isEmpty then none else some ⟨predicates, false⟩

/-- Parameters without a type parameter and the predicates about it. -/
def withoutParam (name : Ident) (g : Generics) : Generics :=
  let params := g.params.filter (!isTypeParam name ·)
  { g with
    angled := g.angled && !params.isEmpty
    params, trailingComma := false
    clause := g.clause.bind (withoutPredicates name) }

/-- The parameters that a peer declares. -/
def genericsOf (h : CompletionHandler) (g : Generics) : Generics :=
  match h.shape with
  | .generic name => withoutParam name g
  | .implTrait | .boxed | .borrowed _ => g

/-- The name of a parameter that is passed on: its own, or one made of its place where it is not a
plain name. -/
def forwardedName (index : Nat) : Pat → Ident
  | .binding _ name => name
  | .other _ => .numbered ['a', 'r', 'g', '_'] (by decide) index .mixedSite

/-- A parameter of the peer: as it was, but under a plain name. -/
def named (index : Nat) : Param → Param
  | .receiver r => .receiver r
  | .typed attributes (.binding mutable name) ty => .typed attributes (.binding mutable name) ty
  | .typed attributes pat ty => .typed attributes (.binding false (forwardedName index pat)) ty

/-- The name under which a parameter is passed on; a receiver is not. -/
def forward? (index : Nat) : Param → Option Ident
  | .receiver _ => none
  | .typed _ pat _ => some (forwardedName index pat)

/-- The parameters that a peer keeps: all but the last. -/
def kept (sig : Signature) : List (Param × Nat) := sig.inputs.dropLast.zipIdx

/-- The signature of the peer of this name. -/
def signature (sig : Signature) (h : CompletionHandler) (name : Ident) : Signature :=
  { sig with
    constWord := false
    asyncWord := some .callSite
    name
    generics := genericsOf h sig.generics
    inputs := (kept sig).map fun (p, index) => named index p
    trailingComma := false
    output := h.payload? }

/-- Whether a parameter is a receiver. -/
def isReceiver : Param → Bool
  | .receiver _ => true
  | .typed .. => false

/-- How a peer calls its function, which belongs to a type if the flag is given. -/
def calleeOf (sig : Signature) (inImpl : Bool) : Callee :=
  if sig.inputs.any isReceiver then .method else if inImpl then .associated else .free

/-- The peer of a function. -/
def of (f : FnItem) (h : CompletionHandler) (inImpl : Bool) (runtime : Path) (suffix : String) :
    Except NameFault AsyncPeer := do
  let name ← Ident.ofText (f.sig.name.plainText ++ suffix) f.sig.name.span
  return { original := f
           handler := h
           sig := signature f.sig h name
           forwarded := (kept f.sig).filterMap fun (p, index) => forward? index p
           callee := calleeOf f.sig inImpl
           runtime }

/-! ## Printing -/

/-- The tokens of the handler that resumes the continuation. -/
def closureTokens (h : CompletionHandler) : Tokens :=
  let resume (value : Tokens) := hygienic "resumption" ++ op "." ++ kw "resume" ++ paren value
  let closure := kw "move" ++ match h.payload? with
    | some payload =>
      op "|" ++ hygienic "value" ++ op ":" ++ payload.tokens ++ op "|" ++
        resume (hygienic "value")
    | none => op "||" ++ resume (paren [])
  match h.shape with
  | .implTrait | .generic _ => closure
  | .boxed => absolute ["std", "boxed", "Box", "new"] ++ paren closure
  | .borrowed mutable => op "&" ++ (if mutable then kw "mut" else []) ++ closure

/-- The tokens of the function that a peer calls. -/
def calleeTokens (p : AsyncPeer) : Tokens :=
  let name := p.original.sig.name.tokens
  match p.callee with
  | .method => kw "self" ++ op "." ++ name
  | .associated => kw "Self" ++ op "::" ++ name
  | .free => name

/-- The tokens of a peer's body. -/
def bodyTokens (p : AsyncPeer) : Tokens :=
  kw "let" ++ paren (hygienic "continuation" ++ op "," ++ hygienic "resumption") ++ op "=" ++
    p.runtime.tokens ++ op "::" ++ kw "__private" ++ op "::" ++ kw "continuation" ++ paren [] ++
    op ";" ++
  p.calleeTokens ++
    paren (eachWithComma (p.forwarded.map Ident.tokens) ++ closureTokens p.handler) ++ op ";" ++
  hygienic "continuation" ++ op "." ++ kw "wait" ++ paren (str p.original.sig.name.text) ++
    op "." ++ kw "await"

/-- The tokens of a peer. It carries the function's attributes, but not the one it comes from. -/
def tokens (p : AsyncPeer) : Tokens :=
  (stripAttribute "add_async" p.original.attributes).flatMap (·.tokens) ++
    p.original.vis.tokens ++ p.sig.tokens ++ brace p.bodyTokens

/-! ## Expanding -/

/-- A function with its asynchronous peer behind it. -/
def inContext (args item : Tokens) : InContext Tokens := do
  let args ← ArgumentList.parse args
  args.validate spec
  let inImpl ← inImplFlag args
  let c ← .config
  let runtime ← c.runtimeFor args
  match ← Item.parse item with
  | .fn f =>
    let handler ← CompletionHandler.ofSignature f.sig
    let peer ← AsyncPeer.of f handler inImpl runtime c.asyncSuffix
    .log .debug "synthesizing async peer"
      [("function", f.sig.name.text), ("payload", toString handler.payload?.isSome),
        ("fallible", toString handler.isFallible)]
    return f.tokens ++ peer.tokens
  | _ => .fail (.unsupportedTarget "#[add_async]" "a function") .callSite

/-- What a function is expanded to, in a context in which nothing has been reported. -/
def expand (c : Config) (args item : Tokens) : Outcome Tokens := (inContext args item).fresh c

end AsyncPeer

end DeclSynth
