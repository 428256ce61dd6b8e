import DeclSynth.Proofs.AsyncPeer.CallSite
import DeclSynth.Proofs.AsyncPeer.Forwarding
import Mathlib.Tactic.ByContra

/-!
# What a peer's signature still names

A peer loses its handler, and with it the type parameter that the handler is
typed by. What the peer still mentions of its function's parameters stays
declared exactly where that type parameter is mentioned by the handler alone
(`expand_declares_iff`). A peer also loses the `for<..>` of its handler, and
its result is clear of the lifetimes bound there exactly where the handler's
arguments are (`expand_output_iff`).
-/

namespace DeclSynth.AsyncPeer

variable {c : Config} {args item out : Tokens} {flag : Bool} {p : AsyncPeer}

/-! ## The parameters that are left -/

/-- The names that a signature mentions when its handler, the handler's type parameter and the
predicates about that are gone, and the result is what the handler is called with. -/
def namesBeside (sig : Signature) (h : CompletionHandler) (name : Ident) : List GenericName :=
  sig.inputs.dropLast.flatMap Param.freeNames ++ namesInOutput h.payload? ++
    ((sig.generics.params.filter (!isTypeParam name ·)).flatMap GenericParam.freeNames ++
      (sig.generics.predicates.filter (!isAbout name ·)).flatMap WherePredicate.freeNames)

/-- A signature that declares the type parameter of its handler, under a name that no other
parameter has, and mentions it beside the handler too. -/
def SharesHandlerParam (sig : Signature) (h : CompletionHandler) : Prop :=
  match h.shape with
  | .generic name =>
    (∃ g ∈ sig.generics.params, isTypeParam name g) ∧
      (∀ g ∈ sig.generics.params, g.declaredName = .word name.plainText → isTypeParam name g) ∧
      .word name.plainText ∈ namesBeside sig h name
  | .implTrait | .boxed | .borrowed _ => False

instance (sig : Signature) (h : CompletionHandler) : Decidable (SharesHandlerParam sig h) :=
  match h with
  | ⟨.generic _, _⟩ => inferInstanceAs (Decidable (_ ∧ _ ∧ _))
  | ⟨.implTrait, _⟩ | ⟨.boxed, _⟩ | ⟨.borrowed _, _⟩ => inferInstanceAs (Decidable False)

theorem sharesHandlerParam_iff {sig : Signature} {h : CompletionHandler} :
    SharesHandlerParam sig h ↔ ∃ name, h.shape = .generic name ∧
      (∃ g ∈ sig.generics.params, isTypeParam name g) ∧
      (∀ g ∈ sig.generics.params, g.declaredName = .word name.plainText → isTypeParam name g) ∧
      .word name.plainText ∈ namesBeside sig h name := by
  unfold SharesHandlerParam
  cases h.shape <;> simp

/-- A parameter under a plain name mentions what it did. -/
theorem freeNames_named (index : Nat) (q : Param) : (named index q).freeNames = q.freeNames := by
  cases q with
  | receiver r => rfl
  | typed attributes pat ty => cases pat <;> rfl

/-- The parameters that are kept mention what they did. -/
theorem freeNames_kept (sig : Signature) :
    ((kept sig).map fun (q, index) => named index q).flatMap Param.freeNames =
      sig.inputs.dropLast.flatMap Param.freeNames := by
  have hkept : (kept sig).map Prod.fst = sig.inputs.dropLast := by
    rw [kept, List.zipIdx_map_fst]
  rw [← hkept, List.flatMap_map, List.flatMap_map]
  simp only [freeNames_named]

/-- A type parameter of some name declares that name. -/
theorem declaredName_of_isTypeParam {name : Ident} {g : GenericParam}
    (hg : isTypeParam name g = true) : g.declaredName = .word name.plainText := by
  cases g with
  | type q =>
    have htext : q.name.text = name.text := Ident.sameName_iff.1 hg
    simp only [GenericParam.declaredName, Ident.plainText, htext]
  | lifetime q => cases hg
  | const q => cases hg

section Generic

variable {sig : Signature} {h : CompletionHandler} {handlerName name : Ident}

/-- A peer whose handler had a type parameter mentions what is left beside that. -/
theorem freeNames_signature (hshape : h.shape = .generic name) :
    (signature sig h handlerName).freeNames = namesBeside sig h name := by
  have hpredicates := predicates_withoutParam name sig.generics
  simp only [Signature.freeNames, signature, genericsOf, hshape, freeNames_kept, namesBeside,
    Generics.freeNames, hpredicates]
  rfl

theorem params_signature (hshape : h.shape = .generic name) :
    (signature sig h handlerName).generics.params =
      sig.generics.params.filter (!isTypeParam name ·) := by
  simp only [signature, genericsOf, hshape]
  rfl

/-- Only the type parameter of the handler is lost. -/
theorem mem_params_signature {g : GenericParam} (hg : g ∈ sig.generics.params)
    (hother : ∀ name, h.shape = .generic name → isTypeParam name g = false) :
    g ∈ (signature sig h handlerName).generics.params := by
  cases hshape : h.shape with
  | generic name =>
    rw [params_signature hshape, List.mem_filter]
    exact ⟨hg, by simp [hother name hshape]⟩
  | implTrait => simpa only [signature, genericsOf, hshape] using hg
  | boxed => simpa only [signature, genericsOf, hshape] using hg
  | borrowed mutable => simpa only [signature, genericsOf, hshape] using hg

/-- **A signature without its handler is closed exactly where it shares no parameter with it.** -/
theorem declares_signature_iff :
    (∀ n ∈ sig.declaredNames, n ∈ (signature sig h handlerName).freeNames →
      n ∈ (signature sig h handlerName).declaredNames) ↔ ¬ SharesHandlerParam sig h := by
  rw [sharesHandlerParam_iff]
  constructor
  · rintro hclosed ⟨name, hshape, ⟨g, hg, hparam⟩, honly, hmention⟩
    have hname := declaredName_of_isTypeParam hparam
    have hdeclared := hclosed _ (List.mem_map.2 ⟨g, hg, hname⟩)
      (by rw [freeNames_signature hshape]; exact hmention)
    obtain ⟨g', hg', hname'⟩ := List.mem_map.1 hdeclared
    rw [params_signature hshape, List.mem_filter] at hg'
    simp [honly g' hg'.1 hname'] at hg'
  · intro hshares n hn hfree
    obtain ⟨g, hg, rfl⟩ := List.mem_map.1 hn
    by_contra hlost
    -- whatever declares a lost name is the type parameter of the handler
    have hhandler : ∀ g' ∈ sig.generics.params, g'.declaredName = g.declaredName →
        ∃ name, h.shape = .generic name ∧ isTypeParam name g' = true := by
      intro g' hg' hsame
      by_contra hother
      refine hlost (List.mem_map.2 ⟨g', mem_params_signature hg' fun name hshape => ?_, hsame⟩)
      by_contra hparam
      exact hother ⟨name, hshape, by simpa using hparam⟩
    obtain ⟨name, hshape, hparam⟩ := hhandler g hg rfl
    have hname := declaredName_of_isTypeParam hparam
    refine hshares ⟨name, hshape, ⟨g, hg, hparam⟩, fun g' hg' hsame => ?_, ?_⟩
    · obtain ⟨name', hshape', hparam'⟩ := hhandler g' hg' (hsame.trans hname.symm)
      rw [hshape] at hshape'
      rwa [HandlerShape.generic.inj hshape']
    · rwa [freeNames_signature hshape, hname] at hfree

end Generic

/-- **A peer is closed exactly where its function shares no parameter with its handler.** -/
theorem Arises.declares_iff (hp : Arises c args item flag p) :
    (∀ n ∈ p.original.sig.declaredNames, n ∈ p.sig.freeNames → n ∈ p.sig.declaredNames) ↔
      ¬ SharesHandlerParam p.original.sig p.handler := by
  obtain ⟨name, -, hsig⟩ := hp.sig_eq
  rw [hsig]
  exact declares_signature_iff

/-- **What a peer mentions of its function's parameters is declared**, exactly where the function
does not share the type parameter of its handler; any other parameter is always kept. -/
theorem expand_declares_iff (hout : (expand c args item).result = .ok out) :
    ∃ flag p, Arises c args item flag p ∧ out = p.original.tokens ++ p.tokens ∧
      ((∀ n ∈ p.original.sig.declaredNames, n ∈ p.sig.freeNames → n ∈ p.sig.declaredNames) ↔
        ¬ SharesHandlerParam p.original.sig p.handler) ∧
      ∀ g ∈ p.original.sig.generics.params,
        (∀ name, p.handler.shape = .generic name → isTypeParam name g = false) →
          g ∈ p.sig.generics.params := by
  obtain ⟨flag, p, hp, rfl⟩ := expand_eq_ok_iff.1 hout
  refine ⟨flag, p, hp, rfl, hp.declares_iff, fun g hg hother => ?_⟩
  obtain ⟨name, -, hsig⟩ := hp.sig_eq
  rw [hsig]
  exact mem_params_signature hg hother

/-- `fn f<F: Fn(u8), T>(a: T, done: F) {}` -/
def ownParamSample : Tokens :=
  kw "fn" ++ kw "f" ++ op "<" ++ kw "F" ++ op ":" ++ kw "Fn" ++ paren (kw "u8") ++ op "," ++
    kw "T" ++ op ">" ++
    paren (kw "a" ++ op ":" ++ kw "T" ++ op "," ++ kw "done" ++ op ":" ++ kw "F") ++ brace []

theorem expand_declares_iff_ownParam : ∃ out,
    (expand .default [] ownParamSample).result = .ok out ∧
    ∃ flag p, Arises .default [] ownParamSample flag p ∧ out = p.original.tokens ++ p.tokens ∧
      ((∀ n ∈ p.original.sig.declaredNames, n ∈ p.sig.freeNames → n ∈ p.sig.declaredNames) ↔
        ¬ SharesHandlerParam p.original.sig p.handler) ∧
      ∀ g ∈ p.original.sig.generics.params,
        (∀ name, p.handler.shape = .generic name → isTypeParam name g = false) →
          g ∈ p.sig.generics.params := by
  obtain ⟨out, hout⟩ := exists_eq_ok_of_isOk
    (x := (expand .default [] ownParamSample).result) (by decide +kernel)
  exact ⟨out, hout, expand_declares_iff hout⟩

/-- `fn f<F: Fn(u8)>(a: F, done: F) {}` -/
def sharedParamSample : Tokens :=
  kw "fn" ++ kw "f" ++ op "<" ++ kw "F" ++ op ":" ++ kw "Fn" ++ paren (kw "u8") ++ op ">" ++
    paren (kw "a" ++ op ":" ++ kw "F" ++ op "," ++ kw "done" ++ op ":" ++ kw "F") ++ brace []

/-- A peer may mention a parameter that only its function declares: where two parameters have the
type of the handler, the one that is left loses its type. -/
theorem exists_undeclared : ∃ flag p, Arises .default [] sharedParamSample flag p ∧
    ∃ n ∈ p.original.sig.declaredNames, n ∈ p.sig.freeNames ∧ n ∉ p.sig.declaredNames := by
  obtain ⟨out, hout⟩ := exists_eq_ok_of_isOk
    (x := (expand .default [] sharedParamSample).result) (by decide +kernel)
  obtain ⟨flag, p, hp, -⟩ := expand_eq_ok_iff.1 hout
  -- the peer is known through what it arises from, where the condition is computed
  have hshares : SharesHandlerParam p.original.sig p.handler := of_decide_eq_true <|
    hp.of_check (fun f h => decide (SharesHandlerParam f.sig h)) (by decide +kernel)
  refine ⟨flag, p, hp, ?_⟩
  by_contra hclosed
  refine hp.declares_iff.1 (fun n hn hfree => ?_) hshares
  by_contra hlost
  exact hclosed ⟨n, hn, hfree, hlost⟩

/-! ## The result -/

/-- Names are closed under the lifetimes known from outside and the declared ones. -/
def LifetimesKnown (outside : List String) (declared names : List GenericName) : Prop :=
  ∀ l, GenericName.lifetime l ∈ names → l ∈ outside ∨ GenericName.lifetime l ∈ declared

/-- The result of a peer mentions what its handler is called with. -/
theorem Arises.output_eq (hp : Arises c args item flag p) :
    ∃ s, p.original.sig.site? = some s ∧
      namesInOutput p.sig.output = s.bound.argumentNames := by
  obtain ⟨hlast, harity⟩ := hp.last
  obtain ⟨name, -, hsig⟩ := hp.sig_eq
  have hcall := p.original.sig.call_site?
  rw [hlast] at hcall
  obtain ⟨s, hs, hbound⟩ := Option.bind_eq_some_iff.1 hcall
  refine ⟨s, hs, ?_⟩
  have hbound' : s.bound.call? = some p.handler.call := hbound
  have houtput : p.sig.output = p.handler.payload? := by rw [hsig]; rfl
  rw [houtput, Bound.argumentNames, hbound']
  -- with one input at most, the names of all inputs are those of the first
  rcases payload?_cases harity with ⟨hinputs, hpayload⟩ | ⟨ty, hinputs, hpayload⟩
  · rw [hpayload]
    simp [hinputs, namesInOutput, namesInTypes]
  · rw [hpayload]
    simp [hinputs, namesInOutput, namesInTypes]

/-- A peer declares the lifetimes that its function declares. -/
theorem Arises.declares_lifetime (hp : Arises c args item flag p) {l : String}
    (hl : .lifetime l ∈ p.original.sig.declaredNames) : .lifetime l ∈ p.sig.declaredNames := by
  obtain ⟨g, hg, hname⟩ := List.mem_map.1 hl
  obtain ⟨name, -, hsig⟩ := hp.sig_eq
  rw [hsig]
  refine List.mem_map.2 ⟨g, mem_params_signature hg fun name hshape => ?_, hname⟩
  cases g with
  | lifetime q => rfl
  | type q => cases hname
  | const q => rfl

/-- **A peer's result is clear of its handler's own lifetimes**, exactly where the handler is not
called with one; it then names only lifetimes that are known where the function's are. -/
theorem expand_output_iff (hout : (expand c args item).result = .ok out) :
    ∃ flag p s, Arises c args item flag p ∧ out = p.original.tokens ++ p.tokens ∧
      p.original.sig.site? = some s ∧
      ((∀ l ∈ s.lifetimes, .lifetime l ∉ namesInOutput p.sig.output) ↔ ¬ s.PassesBound) ∧
      (¬ s.PassesBound → ∀ outside,
        LifetimesKnown outside p.original.sig.declaredNames p.original.sig.freeNames →
          LifetimesKnown outside p.sig.declaredNames (namesInOutput p.sig.output)) := by
  obtain ⟨flag, p, hp, rfl⟩ := expand_eq_ok_iff.1 hout
  obtain ⟨s, hs, hnames⟩ := hp.output_eq
  refine ⟨flag, p, s, hp, rfl, hs, ?_, fun hpasses outside hknown l hl => ?_⟩
  · rw [hnames]
    simp only [CallSite.PassesBound, not_exists, not_and]
  · rw [hnames] at hl
    rcases Signature.mem_freeNames_of_site? hs hl with hfree | ⟨l', hl', hsame⟩
    · exact (hknown l hfree).imp_right hp.declares_lifetime
    · exact absurd ⟨l', hl', hsame ▸ hl⟩ hpasses

/-- `fn f<'a>(done: impl for<'b> Fn(&'a str)) {}` -/
def ownLifetimeSample : Tokens :=
  kw "fn" ++ kw "f" ++ op "<" ++ Lifetime.tokens ⟨"a", .callSite⟩ ++ op ">" ++
    paren (kw "done" ++ op ":" ++ kw "impl" ++
      kw "for" ++ op "<" ++ Lifetime.tokens ⟨"b", .callSite⟩ ++ op ">" ++
      kw "Fn" ++ paren (op "&" ++ Lifetime.tokens ⟨"a", .callSite⟩ ++ kw "str")) ++ brace []

theorem expand_output_iff_ownLifetime : ∃ out,
    (expand .default [] ownLifetimeSample).result = .ok out ∧
    ∃ flag p s, Arises .default [] ownLifetimeSample flag p ∧
      out = p.original.tokens ++ p.tokens ∧ p.original.sig.site? = some s ∧
      ((∀ l ∈ s.lifetimes, .lifetime l ∉ namesInOutput p.sig.output) ↔ ¬ s.PassesBound) ∧
      (¬ s.PassesBound → ∀ outside,
        LifetimesKnown outside p.original.sig.declaredNames p.original.sig.freeNames →
          LifetimesKnown outside p.sig.declaredNames (namesInOutput p.sig.output)) := by
  obtain ⟨out, hout⟩ := exists_eq_ok_of_isOk
    (x := (expand .default [] ownLifetimeSample).result) (by decide +kernel)
  exact ⟨out, hout, expand_output_iff hout⟩

/-- `fn f(done: impl for<'a> Fn(&'a str)) {}` -/
def boundLifetimeSample : Tokens :=
  kw "fn" ++ kw "f" ++
    paren (kw "done" ++ op ":" ++ kw "impl" ++
      kw "for" ++ op "<" ++ Lifetime.tokens ⟨"a", .callSite⟩ ++ op ">" ++
      kw "Fn" ++ paren (op "&" ++ Lifetime.tokens ⟨"a", .callSite⟩ ++ kw "str")) ++ brace []

/-- A peer's result may name a lifetime that only its handler's `for<..>` binds. -/
theorem exists_unbound_lifetime : ∃ flag p s, Arises .default [] boundLifetimeSample flag p ∧
    p.original.sig.site? = some s ∧
    ∃ l ∈ s.lifetimes, .lifetime l ∈ namesInOutput p.sig.output := by
  obtain ⟨out, hout⟩ := exists_eq_ok_of_isOk
    (x := (expand .default [] boundLifetimeSample).result) (by decide +kernel)
  obtain ⟨flag, p, hp, -⟩ := expand_eq_ok_iff.1 hout
  obtain ⟨s, hs, hnames⟩ := hp.output_eq
  have hpasses := hp.of_check (fun f _ => f.sig.site?.any fun s => decide s.PassesBound)
    (by decide +kernel)
  simp only [hs, Option.any_some, decide_eq_true_eq] at hpasses
  exact ⟨flag, p, s, hp, hs, by rw [hnames]; exact hpasses⟩

end DeclSynth.AsyncPeer
