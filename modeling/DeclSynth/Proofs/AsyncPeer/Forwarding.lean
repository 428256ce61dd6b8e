import DeclSynth.Proofs.AsyncPeer.Expansion
import DeclSynth.Proofs.Scope

/-!
# What a peer keeps and what it passes on

A peer has the parameters of its function without the last one, under plain
names, and passes each of them on under the name it binds: the names of the
call are computed from the function and those of the signature from the
peer, and `forwarded_eq` is where the two meet. `IsPeerOf` collects what a
peer's signature and call owe to the function, and `expand_isPeerOf` is the
statement that every expansion owes it.
-/

namespace DeclSynth.AsyncPeer

variable {c : Config} {args item out : Tokens} {flag : Bool} {p : AsyncPeer}

/-- The name that a parameter binds, where its pattern is a plain one. -/
def boundName? : Param → Option Ident
  | .typed _ (.binding _ name) _ => some name
  | .typed _ (.other _) _ => none
  | .receiver _ => none

/-- A parameter beside the one it comes from, which stands at a place among all parameters. -/
inductive KeptAs (index : Nat) : Param → Param → Prop
  | receiver (r : Receiver) : KeptAs index (.receiver r) (.receiver r)
  | plain (attributes : List Attribute) (mutable : Bool) (name : Ident) (ty : Ty) :
      KeptAs index (.typed attributes (.binding mutable name) ty)
        (.typed attributes (.binding mutable name) ty)
  | rebound (attributes : List Attribute) (tokens : Tokens) (name : Ident) (ty : Ty) :
      name.text = "arg_" ++ toString index →
      KeptAs index (.typed attributes (.other tokens) ty)
        (.typed attributes (.binding false name) ty)

/-- The tokens that a function is called by: a method where it takes a receiver, else a function
of the type where the flag is given, else its name. -/
structure CalledBy (f : FnItem) (args callee : Tokens) : Prop where
  method : (∃ r, Param.receiver r ∈ f.sig.inputs) →
    callee = kw "self" ++ op "." ++ f.sig.name.tokens
  associated : (¬ ∃ r, Param.receiver r ∈ f.sig.inputs) → GivesFlag args →
    callee = kw "Self" ++ op "::" ++ f.sig.name.tokens
  free : (¬ ∃ r, Param.receiver r ∈ f.sig.inputs) → ¬ GivesFlag args →
    callee = f.sig.name.tokens

/-- Parameters without the type parameter of the handler and the predicates about it; all of them
for a handler that is typed by none. -/
def KeepsGenerics (h : CompletionHandler) (g g' : Generics) : Prop :=
  match h.shape with
  | .generic name =>
    g'.params = g.params.filter (!isTypeParam name ·) ∧
      g'.predicates = g.predicates.filter (!isAbout name ·)
  | .implTrait | .boxed | .borrowed _ => g' = g

/-- **What a peer owes to its function**: the signature, what it calls the function by, and the
names it passes on. -/
structure IsPeerOf (c : Config) (args : Tokens) (f : FnItem) (h : CompletionHandler)
    (sig : Signature) (callee : Tokens) (arguments : List Ident) : Prop where
  inputs_length : sig.inputs.length + 1 = f.sig.inputs.length
  inputs_kept : ∀ (i : Nat) (q : Param), sig.inputs[i]? = some q →
    ∃ p, f.sig.inputs[i]? = some p ∧ KeptAs i p q
  arguments_bound : (sig.inputs.filter (!isReceiver ·)).map boundName? = arguments.map some
  called_by : CalledBy f args callee
  output : h.call.inputs = [] ∧ sig.output = none ∨
    ∃ ty, h.call.inputs = [ty] ∧ sig.output = some ty
  generics : KeepsGenerics h f.sig.generics sig.generics
  name : sig.name.text = f.sig.name.plainText ++ c.asyncSuffix
  asynchronous : sig.asyncWord.isSome ∧ sig.constWord = false
  qualifiers : sig.qualifiers = f.sig.qualifiers
  variadic : sig.variadic = f.sig.variadic

/-- The code of a peer: the function's attributes but for the one it comes from, its visibility,
the signature, and a body that makes a continuation, calls the function with the names and a
handler that resumes it, and waits. -/
def peerCode (f : FnItem) (h : CompletionHandler) (runtime : Path) (sig : Signature)
    (callee : Tokens) (arguments : List Ident) : Tokens :=
  (f.attributes.filter (!·.isNamed "add_async")).flatMap (·.tokens) ++ f.vis.tokens ++
    sig.tokens ++ brace (
      kw "let" ++ paren (hygienic "continuation" ++ op "," ++ hygienic "resumption") ++ op "=" ++
        runtime.tokens ++ op "::" ++ kw "__private" ++ op "::" ++ kw "continuation" ++ paren [] ++
        op ";" ++
      callee ++ paren (eachWithComma (arguments.map Ident.tokens) ++ closureTokens h) ++ op ";" ++
      hygienic "continuation" ++ op "." ++ kw "wait" ++ paren (str f.sig.name.text) ++ op "." ++
        kw "await")

/-! ## Parameters -/

/-- A name made of a place is `arg_` and the place. -/
theorem text_forwardedName (index : Nat) (tokens : Tokens) :
    (forwardedName index (.other tokens)).text = "arg_" ++ toString index := by
  change String.ofList (['a', 'r', 'g', '_'] ++ Nat.toDigits 10 index) = _
  rw [String.ofList_append]
  rfl

/-- Every parameter is kept under a plain name. -/
theorem keptAs_named (index : Nat) : ∀ q : Param, KeptAs index q (named index q)
  | .receiver r => .receiver r
  | .typed attributes (.binding mutable name) ty => .plain attributes mutable name ty
  | .typed attributes (.other tokens) ty =>
    .rebound attributes tokens _ ty (text_forwardedName index tokens)

/-- **The names passed on are those that are bound**: one for each parameter but a receiver, in
order. -/
theorem forwarded_eq (l : List (Param × Nat)) :
    ((l.map fun (q, index) => named index q).filter (!isReceiver ·)).map boundName? =
      (l.filterMap fun (q, index) => forward? index q).map some := by
  induction l with
  | nil => rfl
  | cons head rest ih =>
    obtain ⟨q, index⟩ := head
    -- by the pattern: only one that is no plain name is bound anew, and passed on as it is bound
    match q with
    | .receiver r => simpa [named, isReceiver, forward?] using ih
    | .typed attributes (.binding mutable name) ty =>
      simpa [named, isReceiver, forward?, boundName?, forwardedName] using ih
    | .typed attributes (.other tokens) ty =>
      simpa [named, isReceiver, forward?, boundName?] using ih

/-! ## The signature -/

section Signature

variable {sig : Signature} {h : CompletionHandler} {name : Ident}

theorem signature_inputs_length (hsig : sig.inputs ≠ []) :
    (signature sig h name).inputs.length + 1 = sig.inputs.length := by
  have := List.length_pos_iff.2 hsig
  simp only [signature, kept, List.length_map, List.length_zipIdx, List.length_dropLast]
  omega

theorem signature_inputs_kept {i : Nat} {q : Param}
    (hq : (signature sig h name).inputs[i]? = some q) :
    ∃ p, sig.inputs[i]? = some p ∧ KeptAs i p q := by
  simp only [signature, kept, List.getElem?_map, List.getElem?_zipIdx, Option.map_map,
    Option.map_eq_some_iff] at hq
  obtain ⟨p, hp, rfl⟩ := hq
  have hkept : KeptAs i p (named i p) := keptAs_named i p
  refine ⟨p, ?_, by simpa using hkept⟩
  rw [List.getElem?_dropLast] at hp
  split at hp
  · exact hp
  · cases hp

/-- The predicates that are left are those about something else. -/
theorem predicates_withoutParam (name : Ident) (g : Generics) :
    (withoutParam name g).predicates = g.predicates.filter (!isAbout name ·) := by
  unfold withoutParam Generics.predicates
  rcases g.clause with - | w
  · rfl
  · simp only [Option.bind_some, withoutPredicates, Option.map_some, Option.getD_some]
    split
    · rename_i hempty
      simpa using (List.isEmpty_iff.1 hempty).symm
    · rfl

/-- Only the handler's own type parameter goes, with the predicates about it. -/
theorem keepsGenerics_genericsOf (h : CompletionHandler) (g : Generics) :
    KeepsGenerics h g (genericsOf h g) := by
  obtain ⟨shape, call⟩ := h
  cases shape with
  | generic name => exact ⟨rfl, predicates_withoutParam name g⟩
  | implTrait => rfl
  | boxed => rfl
  | borrowed mutable => rfl

end Signature

/-! ## The call -/

theorem any_isReceiver_iff {inputs : List Param} :
    inputs.any isReceiver = true ↔ ∃ r, Param.receiver r ∈ inputs := by
  rw [List.any_eq_true]
  constructor
  · rintro ⟨q, hq, hr⟩
    cases q with
    | receiver r => exact ⟨r, hq⟩
    | typed => cases hr
  · rintro ⟨r, hr⟩
    exact ⟨_, hr, rfl⟩

/-- A peer calls its function by what the receiver and the flag tell. -/
theorem Arises.called_by (hp : Arises c args item flag p) :
    CalledBy p.original args p.calleeTokens := by
  obtain ⟨name, -, hfields⟩ := of_eq_ok hp.made
  have hcallee : p.callee = calleeOf p.original.sig flag := by rw [hfields]
  have hflag := hp.flag_iff
  unfold calleeTokens
  rw [hcallee]
  unfold calleeOf
  refine ⟨fun hr => ?_, fun hr hgiven => ?_, fun hr hgiven => ?_⟩
  · rw [if_pos (any_isReceiver_iff.2 hr)]
  · rw [if_neg fun h => hr (any_isReceiver_iff.1 h), if_pos (hflag.2 hgiven)]
  · rw [if_neg fun h => hr (any_isReceiver_iff.1 h), if_neg fun h => hgiven (hflag.1 h)]

/-- The tokens of a peer are its code. -/
theorem tokens_eq_peerCode (p : AsyncPeer) :
    p.tokens = peerCode p.original p.handler p.runtime p.sig p.calleeTokens p.forwarded := by
  unfold AsyncPeer.tokens peerCode bodyTokens stripAttribute
  simp only [List.append_assoc]

/-- What a handler is called with, as the list of its inputs tells. -/
theorem payload?_cases {h : CompletionHandler} (harity : h.call.inputs.length ≤ 1) :
    h.call.inputs = [] ∧ h.payload? = none ∨
      ∃ ty, h.call.inputs = [ty] ∧ h.payload? = some ty := by
  obtain ⟨shape, inputs, output⟩ := h
  rcases inputs with - | ⟨ty, - | ⟨second, rest⟩⟩
  · exact .inl ⟨rfl, rfl⟩
  · exact .inr ⟨ty, rfl, rfl⟩
  · simp at harity

/-- **The peer of an accepted function settles what it owes.** -/
theorem Arises.isPeerOf (hp : Arises c args item flag p) :
    IsPeerOf c args p.original p.handler p.sig p.calleeTokens p.forwarded := by
  obtain ⟨hlast, harity⟩ := hp.last
  obtain ⟨name, hname, hfields⟩ := of_eq_ok hp.made
  have hsig : p.sig = signature p.original.sig p.handler name := by rw [hfields]
  have hforwarded : p.forwarded =
      (kept p.original.sig).filterMap fun (q, index) => forward? index q := by rw [hfields]
  -- the handler itself is a parameter, so there is a last one to drop
  have hinputs : p.original.sig.inputs ≠ [] := by
    intro hnil
    simp [CompletionHandler.last?, hnil] at hlast
  exact {
    inputs_length := by rw [hsig]; exact signature_inputs_length hinputs
    inputs_kept := fun i q hq => signature_inputs_kept (by rw [hsig] at hq; exact hq)
    arguments_bound := by rw [hsig, hforwarded]; exact forwarded_eq _
    called_by := hp.called_by
    output := by rw [hsig]; exact payload?_cases harity
    generics := by rw [hsig]; exact keepsGenerics_genericsOf _ _
    name := by rw [hsig]; exact hname
    asynchronous := by rw [hsig]; exact ⟨rfl, rfl⟩
    qualifiers := by rw [hsig]; rfl
    variadic := by rw [hsig]; rfl }

/-- `fn f<F: Fn(u8)>(&self, (x, y): (u8, u8), done: F) {}` -/
def methodSample : Tokens :=
  kw "fn" ++ kw "f" ++ op "<" ++ kw "F" ++ op ":" ++ kw "Fn" ++ paren (kw "u8") ++ op ">" ++
    paren (op "&" ++ kw "self" ++ op "," ++
      paren (kw "x" ++ op "," ++ kw "y") ++ op ":" ++ paren (kw "u8" ++ op "," ++ kw "u8") ++
        op "," ++
      kw "done" ++ op ":" ++ kw "F") ++ brace []

end DeclSynth.AsyncPeer
