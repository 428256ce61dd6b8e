import DeclSynth.Expansion
import DeclSynth.Proofs.InContext
import DeclSynth.Proofs.Sealed.Collecting

/-!
# Expanders in a context

Each expander that is handed the context reads its configuration at most, so it carries out
an outcome: one lemma for each of them (`AsyncPeer.carriesOut_inContext` and its like) says
which, and with `CarriesOut.fresh_eq` what the expander comes to in a fresh context. Of the
eleven expanders five are handed none. So every expander does in any context what it does
in a fresh one (`Expander.carriesOut_run`).
-/

namespace DeclSynth

open InContext

variable (c : Config)

/-! ## Reports and URL literals -/

theorem Freestanding.carriesOut_warning (input : Tokens) :
    (warning input).CarriesOut c (do
      let (text, span) ← required literal "a string literal message" input
      .warn span (Literal.content text)
      return []) :=
  (carriesOut_carryOut _).bind fun _ =>
    (carriesOut_warn _ _).bind fun _ => carriesOut_pure _

theorem UrlLiteral.carriesOut_inContext (input : Tokens) :
    (inContext input).CarriesOut c (do
      let (text, span) ← Freestanding.required Freestanding.literal "a string literal URL" input
      let url ← check (Literal.content text) span
      .log .debug "validated url literal" [("url", url.render)]
      let runtime ← Config.reportAt span c.runtimePath
      return tokens runtime [.literal text span]) :=
  (carriesOut_carryOut _).bind fun _ =>
    (carriesOut_ofExcept _).bind fun _ =>
    (carriesOut_log _ _ _).bind fun _ => .config <|
    (carriesOut_ofExcept _).bind fun _ => carriesOut_pure _

/-! ## Asynchronous peers -/

namespace AsyncPeer

variable (args item : Tokens)

theorem carriesOut_inContext :
    (inContext args item).CarriesOut c (do
      let args ← ArgumentList.parse args
      args.validate spec
      let inImpl ← inImplFlag args
      let runtime ← c.runtimeFor args
      match ← Item.parse item with
      | .fn f =>
        let handler ← CompletionHandler.ofSignature f.sig
        let peer ← AsyncPeer.of f handler inImpl runtime c.asyncSuffix
        .log .debug "synthesizing async peer"
          [("function", f.sig.name.text), ("payload", toString handler.payload?.isSome),
            ("fallible", toString handler.isFallible)]
        return f.tokens ++ peer.tokens
      | _ => .fail (.unsupportedTarget "#[add_async]" "a function") .callSite) := by
  refine (carriesOut_ofSyntax _).bind fun args => ?_
  refine (carriesOut_ofExcept _).bind fun _ => ?_
  refine (carriesOut_ofExcept _).bind fun inImpl => .config ?_
  refine (carriesOut_ofExcept _).bind fun runtime => ?_
  refine (carriesOut_ofSyntax _).bind fun item => ?_
  cases item with
  | fn f =>
    exact (carriesOut_ofExcept _).bind fun _ => (carriesOut_ofName _).bind fun _ =>
      (carriesOut_log _ _ _).bind fun _ => carriesOut_pure _
  | _ => exact carriesOut_fail _ _

end AsyncPeer

/-! ## Stored fields -/

theorem StoredAccess.carriesOut_inContext (args item : Tokens) :
    (inContext args item).CarriesOut c (do
      let args ← ArgumentList.parse args
      args.validate spec
      let runtime ← c.runtimeFor args
      let store ← Config.reportAt args.span (c.store runtime)
      match ← Item.parse item with
      | .struct s =>
        let access ← StoredAccess.of s runtime store
        .log .debug "synthesizing stored accessors"
          [("target_type", s.name.text), ("accessors", toString access.stored.length)]
        return access.tokens
      | _ => .fail (.unsupportedTarget "#[stored_access]" "a struct") .callSite) := by
  refine (carriesOut_ofSyntax _).bind fun args => ?_
  refine (carriesOut_ofExcept _).bind fun _ => .config ?_
  refine (carriesOut_ofExcept _).bind fun runtime => ?_
  refine (carriesOut_ofExcept _).bind fun store => ?_
  refine (carriesOut_ofSyntax _).bind fun item => ?_
  cases item with
  | struct s =>
    exact (carriesOut_ofExcept _).bind fun _ => (carriesOut_log _ _ _).bind fun _ =>
      carriesOut_pure _
  | _ => exact carriesOut_fail _ _

/-! ## Initializers -/

namespace Initializer

/-- The configuration plays no part. -/
theorem carriesOut_synthesizeInContext (s : StructItem) (supertype : Option Path) :
    (synthesizeInContext s supertype).CarriesOut c (do
      .log .debug "synthesizing initializer"
        [("target_type", s.name.text), ("stored", toString s.fields.stored.length),
          ("supertype", toString supertype.isSome)]
      match (s.facts supertype).hasStored, supertype with
      | true, some path =>
        .warn path.span ("`extends` is ignored because `" ++ s.name.text ++
          "` has stored properties; an inherent `new` is generated instead")
      | _, _ => pure ()
      return .of s supertype) := by
  refine (carriesOut_log _ _ _).bind fun _ => ?_
  cases (s.facts supertype).hasStored with
  | false => exact (carriesOut_pure _).bind fun _ => carriesOut_pure _
  | true =>
    cases supertype with
    | none => exact (carriesOut_pure _).bind fun _ => carriesOut_pure _
    | some path => exact (carriesOut_warn _ _).bind fun _ => carriesOut_pure _

theorem carriesOut_synthesize (s : StructItem) (supertype : Option Path) :
    (synthesizeInContext s supertype).CarriesOut c (synthesize s supertype) := by
  rw [synthesize, (carriesOut_synthesizeInContext .default s supertype).fresh_eq]
  exact carriesOut_synthesizeInContext c s supertype

/-- The configuration plays no part. -/
theorem carriesOut_inContext (args item : Tokens) :
    (inContext args item).CarriesOut c (do
      let args ← ArgumentList.parse args
      args.validate spec
      let supertype ← args.path "extends"
      match ← Item.parse item with
      | .struct s =>
        let initializer ← synthesize s supertype
        return s.tokens ++ initializer.tokens
      | _ => .fail (.unsupportedTarget "#[add_init]" "a struct") .callSite) := by
  refine (carriesOut_ofSyntax _).bind fun args => ?_
  refine (carriesOut_ofExcept _).bind fun _ => ?_
  refine (carriesOut_ofExcept _).bind fun supertype => ?_
  refine (carriesOut_ofSyntax _).bind fun item => ?_
  cases item with
  | struct s => exact (carriesOut_synthesize c s supertype).bind fun _ => carriesOut_pure _
  | _ => exact carriesOut_fail _ _

/-- What a struct is expanded to is the same under every configuration. -/
theorem fresh_inContext (args item : Tokens) :
    (inContext args item).fresh c = expand args item := by
  rw [expand, (carriesOut_inContext c args item).fresh_eq,
    (carriesOut_inContext .default args item).fresh_eq]

end Initializer

/-! ## Sealed modules -/

namespace Sealed

variable (suffix : String) (base : Ident) (variants : List Variant)

theorem addRoles_nil (buckets : List Bucket) :
    addRoles suffix base variants buckets [] = pure buckets :=
  (carriesOut_pure buckets).fresh_eq

/-- A further role is added before the rest are. -/
theorem carriesOut_addRoles_cons (buckets : List Bucket) (role : Ident) {rest : List Ident}
    (hrest : ∀ buckets, (addRolesInContext suffix base variants buckets rest).CarriesOut c
      (addRoles suffix base variants buckets rest)) :
    (addRolesInContext suffix base variants buckets (role :: rest)).CarriesOut c (do
      if (variants.filter (·.plays role)).isEmpty then
        .warn role.span
          ("role `" ++ role.text ++ "` has no variants; nothing is generated for it")
        addRoles suffix base variants buckets rest
      else
        let bucket ← Bucket.ofRole suffix base role (variants.filter (·.plays role))
        bucket.checkAgainst base role buckets
        addRoles suffix base variants (buckets ++ [bucket]) rest) := by
  rw [addRolesInContext]
  split
  · exact (carriesOut_warn _ _).bind fun _ => hrest buckets
  · refine (carriesOut_ofName _).bind fun bucket => ?_
    exact (carriesOut_ofExcept _).bind fun _ => hrest (buckets ++ [bucket])

theorem carriesOut_addRoles (buckets : List Bucket) (roles : List Ident) :
    (addRolesInContext suffix base variants buckets roles).CarriesOut c
      (addRoles suffix base variants buckets roles) := by
  induction roles generalizing buckets c with
  | nil =>
    rw [addRoles_nil]
    exact carriesOut_pure buckets
  | cons role rest ih =>
    have hcons (c : Config) := carriesOut_addRoles_cons c suffix base variants buckets role (ih c)
    rw [addRoles, (hcons .default).fresh_eq]
    exact hcons c

theorem addRoles_cons (buckets : List Bucket) (role : Ident) (rest : List Ident) :
    addRoles suffix base variants buckets (role :: rest) = (do
      if (variants.filter (·.plays role)).isEmpty then
        .warn role.span
          ("role `" ++ role.text ++ "` has no variants; nothing is generated for it")
        addRoles suffix base variants buckets rest
      else
        let bucket ← Bucket.ofRole suffix base role (variants.filter (·.plays role))
        bucket.checkAgainst base role buckets
        addRoles suffix base variants (buckets ++ [bucket]) rest) :=
  (carriesOut_addRoles_cons _ suffix base variants buckets role fun buckets =>
    carriesOut_addRoles _ suffix base variants buckets rest).fresh_eq

/-- The hierarchy of variants, from the settings of the configuration. -/
theorem Hierarchy.carriesOut_buildInContext (roles : List Ident) (items : List Item) :
    (buildInContext base roles variants items).CarriesOut c (do
      let discriminator ← Config.reportAt .callSite c.discriminator
      let classifier ← Config.reportAt .callSite c.classifier
      let buckets ← addRoles c.sealedSuffix base variants
        [⟨none, discriminator, classifier, variants⟩] roles
      let h : Hierarchy := ⟨base, sharedVisibility variants, variants, buckets⟩
      h.checkTypes items
      h.checkMethods items
      (h.shadows items).forM fun s => .report s.warning
      return h) := by
  refine .config ?_
  refine (carriesOut_ofExcept _).bind fun discriminator => ?_
  refine (carriesOut_ofExcept _).bind fun classifier => ?_
  refine (carriesOut_addRoles c c.sealedSuffix base variants _ roles).bind fun buckets => ?_
  refine (carriesOut_ofExcept _).bind fun _ => ?_
  refine (carriesOut_ofExcept _).bind fun _ => ?_
  exact (CarriesOut.forM (fun _ => carriesOut_report _) _).bind fun _ => carriesOut_pure _

theorem carriesOut_appendHierarchy (module : Ident) (roles : List Ident) (items : List Item) :
    (appendHierarchy base module roles variants items).CarriesOut c (do
      if variants.isEmpty then
        .log .debug "no variants; module left unchanged" [("module", module.text)]
        return items
      else
        let h ← Hierarchy.build c base roles variants items
        .log .debug "synthesizing sealed hierarchy"
          [("base", h.base.text), ("variants", toString h.variants.length),
            ("buckets", toString h.buckets.length)]
        return items ++ [.verbatim h.tokens]) := by
  unfold appendHierarchy
  split
  · exact (carriesOut_log _ _ _).bind fun _ => carriesOut_pure _
  · refine (Hierarchy.carriesOut_buildInContext c base variants roles _).of_fresh.bind fun h => ?_
    exact (carriesOut_log _ _ _).bind fun _ => carriesOut_pure _

/-- Collecting the variants before any marks are taken comes to the same. -/
theorem carriesOut_sealInContext (module : Ident) (roles : List Ident) (items : List Item) :
    (sealInContext base module roles items).CarriesOut c (do
      let variants ← Variant.collect roles items
      let items := items.map unmarked
      if variants.isEmpty then
        .log .debug "no variants; module left unchanged" [("module", module.text)]
        return items
      else
        let h ← Hierarchy.build c base roles variants items
        .log .debug "synthesizing sealed hierarchy"
          [("base", h.base.text), ("variants", toString h.variants.length),
            ("buckets", toString h.buckets.length)]
        return items ++ [.verbatim h.tokens]) := by
  have hseal := (carriesOut_carryOut (takeMarks roles items)).bind fun found =>
    carriesOut_appendHierarchy c base found.1 module roles found.2
  rw [takeMarks_eq, Outcome.bind_assoc] at hseal
  rw [sealInContext, takeMarks_eq]
  exact hseal

theorem carriesOut_inContext (args item : Tokens) :
    (inContext args item).CarriesOut c (do
      let args ← ArgumentList.parse args
      args.validate spec
      let roles ← declaredRoles args
      match ← Item.parse item with
      | .mod attributes vis unsafeWord name content =>
        let base ← baseOf args name
        match content with
        | none => .fail .moduleWithoutBody name.span
        | some items =>
          let items ← sealItems c base name roles items
          return (Item.mod attributes vis unsafeWord name (some items)).tokens
      | _ => .fail (.unsupportedTarget "#[sealed]" "an inline module") .callSite) := by
  refine (carriesOut_ofSyntax _).bind fun args => ?_
  refine (carriesOut_ofExcept _).bind fun _ => ?_
  refine (carriesOut_ofExcept _).bind fun roles => ?_
  refine (carriesOut_ofSyntax _).bind fun item => ?_
  cases item with
  | mod attributes vis unsafeWord name content =>
    refine (carriesOut_ofExcept _).bind fun base => ?_
    cases content with
    | none => exact carriesOut_fail _ _
    | some items =>
      exact (carriesOut_sealInContext c base name roles items).of_fresh.bind fun _ =>
        carriesOut_pure _
  | _ => exact carriesOut_fail _ _

end Sealed

/-! ## Every expander -/

/-- **Every expander does in any context what it does in a fresh one.** -/
theorem Expander.carriesOut_run (kind : Expander) (args item : Tokens) :
    (kind.inContext args item).CarriesOut c (kind.run c args item) := by
  cases kind with
  | stringify => exact (carriesOut_carryOut _).of_fresh
  | warning => exact (Freestanding.carriesOut_warning c args).of_fresh
  | url => exact (UrlLiteral.carriesOut_inContext c args).of_fresh
  | addAsync => exact (AsyncPeer.carriesOut_inContext c args item).of_fresh
  | caseDetection => exact (carriesOut_carryOut _).of_fresh
  | wrapStoredProperties => exact (carriesOut_carryOut _).of_fresh
  | storedAccess => exact (StoredAccess.carriesOut_inContext c args item).of_fresh
  | equatable => exact (carriesOut_carryOut _).of_fresh
  | copyable => exact (carriesOut_carryOut _).of_fresh
  | sealed => exact (Sealed.carriesOut_inContext c args item).of_fresh
  | addInit => exact (Initializer.carriesOut_inContext c args item).of_fresh

end DeclSynth
