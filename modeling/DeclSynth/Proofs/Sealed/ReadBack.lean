import DeclSynth.Expansion.Sealed.Printer
import DeclSynth.Proofs.Sealed.Code

/-!
# Reading a hierarchy back

What `Code.read` finds in the code of a hierarchy is what the hierarchy says:
`Hierarchy.declarations` lists it, in order, and `read_tokens` is the theorem.
Each part of the code is read back beside the function that writes it, so a
change to one of them concerns one lemma.
-/

namespace DeclSynth.Sealed

open Code

/-! ## What is written -/

namespace Variant

/-- A variant's case of the base. -/
def baseCase (v : Variant) : Case := ⟨v.name.text, .owned v.name.text⟩

/-- A variant's case of a discriminator. -/
def discriminatorCase (v : Variant) : Case :=
  ⟨v.name.text, if v.hasPayload then .borrowed v.name.text else .nothing⟩

/-- What an arm for a variant is for. -/
def pattern (v : Variant) : Pattern := .case v.name.text v.hasPayload

end Variant

namespace Bucket

variable (b : Bucket)

/-- A variant's case of the discriminator, as it is yielded for a variable. -/
def expression (argument : String) (v : Variant) : Expression :=
  .case b.discriminator.text v.name.text (if v.hasPayload then some argument else none)

/-- The discriminator where it is used. -/
def use : Use := ⟨b.discriminator.text, b.borrows⟩

/-- The classifier as the role declares it. -/
def required : MethodHead := ⟨b.classifier.text, false, b.use⟩

/-- The classifier as a member of the role implements it. -/
def roleMethod (v : Variant) : Method := ⟨b.required, [], .yields (b.expression "self" v)⟩

/-- A role and the implementations of its members. -/
def roleDeclarations (vis : Visibility) (b : Bucket) : List Declaration :=
  match b.role with
  | none => []
  | some role =>
    .trait vis.tokens role.text b.required ::
      b.members.map fun v => .implementation role.text v.name.text [b.roleMethod v]

/-- A discriminator and the three traits that it implements. -/
def discriminatorDeclarations (vis : Visibility) (b : Bucket) : List Declaration :=
  [.enum vis.tokens b.discriminator.text b.borrows (b.members.map Variant.discriminatorCase),
    .comparison b.use (b.members.map Variant.pattern ++ [.any]), .totality b.use,
    .text b.use (b.members.map Variant.pattern)]

/-- An arm of the base's classifier. -/
def row (a : Hierarchy.Arm) : Row :=
  let name := a.variant.name.text
  match a.answer with
  | .case => ⟨some name, if a.variant.hasPayload then some "value" else none,
      b.expression "value" a.variant⟩
  | .ofRole role => ⟨some name, some "value", .some role.text b.classifier.text "value"⟩
  | .nothing => ⟨some name, none, .none⟩

end Bucket

namespace Hierarchy

/-- The classifier of the base for a bucket: its result is optional for a role. -/
def classifierMethod (h : Hierarchy) (b : Bucket) : Method :=
  ⟨⟨b.classifier.text, b.role.isSome, b.use⟩, h.vis.tokens, .matches ((h.arms b).map b.row)⟩

/-- The declarations of a hierarchy. -/
def declarations (h : Hierarchy) : List Declaration :=
  [.enum h.vis.tokens h.base.text false (h.variants.map Variant.baseCase)] ++
    h.variants.map (fun v => .conversion v.name.text h.base.text) ++
    h.buckets.flatMap (Bucket.discriminatorDeclarations h.vis) ++
    [.methods h.base.text (h.buckets.map h.classifierMethod)] ++
    h.buckets.flatMap (Bucket.roleDeclarations h.vis)

end Hierarchy

/-! ## Tokens that are no body -/

@[simp] theorem open_kw (text : String) : Open isBody (kw text) := by simp [kw, isBody]

@[simp] theorem open_paren (ts : Tokens) : Open isBody (paren ts) := by simp [paren, isBody]

@[simp] theorem open_bracket (ts : Tokens) : Open isBody (bracket ts) := by simp [bracket, isBody]

@[simp] theorem open_name (name : Ident) : Open isBody name.tokens := by
  simp [Ident.tokens, isBody]

@[simp] theorem open_op (text : String) : Open isBody (op text) := by
  unfold op
  generalize text.toList = cs
  induction cs with
  | nil => exact open_nil
  | cons c rest ih =>
    cases rest with
    | nil => simp [joined, isBody]
    | cons d rest => simpa [joined, isBody] using ih

@[simp] theorem open_absolute (names : List String) : Open isBody (absolute names) := by
  unfold absolute
  induction names with
  | nil => exact open_nil
  | cons name rest ih => simpa using ih

@[simp] theorem open_vis (vis : Visibility) : Open isBody vis.tokens := by
  cases vis <;> simp [Visibility.tokens]

@[simp] theorem open_angled (name : String) : Open isBody (angled name) := by
  simp [angled, Lifetime.tokens, isBody]

@[simp] theorem open_declaredLifetime (b : Bucket) : Open isBody b.declaredLifetime := by
  unfold Bucket.declaredLifetime
  split <;> simp

@[simp] theorem open_discriminatorType (b : Bucket) : Open isBody b.discriminatorType := by
  unfold Bucket.discriminatorType
  split <;> simp

@[simp] theorem open_classifierResult (b : Bucket) :
    Open isBody (Hierarchy.classifierResult b) := by
  unfold Hierarchy.classifierResult
  split <;> simp

@[simp] theorem open_classifierHead (b : Bucket) : Open isBody b.classifierHead := by
  simp [Bucket.classifierHead, sharedSelf]

/-- A visibility is no part of a declaration's form. -/
theorem bare_vis {vis : Visibility} {word : String} {span : Span} {ts : Tokens}
    (hword : word ≠ "pub") :
    bare (vis.tokens ++ .word word span :: ts) = .word word span :: ts := by
  cases vis with
  | inherited => simp [Visibility.tokens, bare, hword]
  | everywhere => simp [Visibility.tokens, kw, bare]
  | restricted inWord leadingColon path => simp [Visibility.tokens, kw, paren, bare]

/-- What is written for a visibility is read back. -/
theorem writtenVis_vis {vis : Visibility} {word : String} {span : Span} {ts : Tokens}
    (hword : word ≠ "pub") :
    writtenVis (vis.tokens ++ .word word span :: ts) = vis.tokens := by
  cases vis with
  | inherited => simp [Visibility.tokens, writtenVis, hword]
  | everywhere => simp [Visibility.tokens, kw, writtenVis]
  | restricted inWord leadingColon path => simp [Visibility.tokens, kw, paren, writtenVis]

section Head

variable {vis : Visibility} {word : String} {ts : Tokens}

theorem bare_head (hword : word ≠ "pub") : bare (vis.tokens ++ kw word ++ ts) = kw word ++ ts := by
  rw [List.append_assoc]
  exact bare_vis hword

theorem writtenVis_head (hword : word ≠ "pub") :
    writtenVis (vis.tokens ++ kw word ++ ts) = vis.tokens := by
  rw [List.append_assoc]
  exact writtenVis_vis hword

end Head

/-- A declaration is read once its body is. -/
theorem reads_block {α : Type} {piece : Tokens → Token → Option α} {head body : Tokens} {a : α}
    (hopen : Open isBody head) (hpiece : piece head (.group .brace body .callSite) = some a) :
    Reads isBody piece (head ++ brace body) [a] :=
  reads_piece hopen rfl hpiece

/-- Pieces with a comma behind each are read one by one. -/
theorem readEach_eachWithComma {α β : Type} {piece : Tokens → Token → Option α} {l : List β}
    {f : β → Tokens} {g : β → α} (hopen : ∀ b ∈ l, Open isComma (f b))
    (hpiece : ∀ b ∈ l, ∀ t, piece (f b) t = some (g b)) :
    readEach isComma piece [] (eachWithComma (l.map f)) = some (l.map g) := by
  have hcommas : eachWithComma (l.map f) = l.flatMap fun b => f b ++ op "," := by
    unfold eachWithComma
    clear hopen hpiece
    induction l with
    | nil => rfl
    | cons b rest ih =>
      cases rest with
      | nil => simp [separated]
      | cons b' rest =>
        simp only [List.map_cons, List.flatMap_cons, separated] at ih ⊢
        rw [ih]
  rw [hcommas, List.map_eq_flatMap]
  refine Reads.readEach_eq (reads_flatMap fun b hb => ?_)
  exact reads_piece (hopen b hb) rfl (hpiece b hb _)

/-! ## Cases -/

/-- The cases of the base are read back. -/
theorem readCases_base (variants : List Variant) :
    readEach isComma readCase [] (eachWithComma (variants.map fun v =>
      v.name.tokens ++ paren v.name.tokens)) = some (variants.map Variant.baseCase) := by
  refine readEach_eachWithComma (fun v _ => ?_) fun v _ _ => rfl
  simp [Ident.tokens, paren, isComma]

/-- The cases of a discriminator are read back. -/
theorem readCases_discriminator (variants : List Variant) :
    readEach isComma readCase [] (eachWithComma (variants.map Bucket.caseTokens)) =
      some (variants.map Variant.discriminatorCase) := by
  refine readEach_eachWithComma (fun v _ => ?_) fun v _ _ => ?_
  · unfold Bucket.caseTokens
    split <;> simp [Ident.tokens, paren, isComma]
  · unfold Bucket.caseTokens Variant.discriminatorCase
    split <;> rfl

/-! ## Arms -/

theorem readPairArm_equalityArm (v : Variant) (t : Token) :
    readPairArm (Bucket.equalityArm v) t = some v.pattern := by
  unfold Bucket.equalityArm Variant.pattern
  cases v.hasPayload <;>
    simp [armTokens, selfCase, kw, paren, op, joined, absolute, Ident.tokens, readPairArm]

theorem open_equalityArm (v : Variant) : Open isComma (Bucket.equalityArm v) := by
  unfold Bucket.equalityArm
  split <;> simp [armTokens, kw, op, joined, paren, absolute, isComma]

theorem readArm_debugArm (v : Variant) (t : Token) :
    readArm (Bucket.debugArm v) t = some v.pattern := by
  unfold Bucket.debugArm Variant.pattern
  cases v.hasPayload <;> rfl

theorem open_debugArm (v : Variant) : Open isComma (Bucket.debugArm v) := by
  unfold Bucket.debugArm
  split <;> simp [armTokens, selfCase, Ident.tokens, kw, op, joined, paren, isComma]

/-- The arms of a function that is one `match` are read. -/
theorem readArms_eq {arm : Tokens → Token → Option Pattern} {head arms : Tokens} {value : Token}
    {patterns : List Pattern} (span : Span) (hopen : Open isBody head)
    (harms : readEach isComma arm [] arms = some patterns) :
    readArms arm (.group .brace (head ++ brace (kw "match" ++ [value] ++ brace arms)) span) =
      some patterns := by
  have hmatch : Reads isBody (readMatch arm)
      (head ++ brace (kw "match" ++ [value] ++ brace arms)) [patterns] :=
    reads_block hopen harms
  rw [readArms, inside, hmatch.readEach_eq]

/-- The arms of a comparison are read, and the wildcard behind them. -/
theorem readEach_equalityArms (variants : List Variant) :
    readEach isComma readPairArm [] (eachWithComma
      (variants.map Bucket.equalityArm ++ [armTokens (kw "_") (kw "false")])) =
      some (variants.map Variant.pattern ++ [.any]) := by
  -- the wildcard is the arm of no variant
  let arm (v : Option Variant) : Tokens :=
    v.elim (armTokens (kw "_") (kw "false")) Bucket.equalityArm
  let pattern (v : Option Variant) : Pattern := v.elim .any Variant.pattern
  have hread : readEach isComma readPairArm []
      (eachWithComma ((variants.map some ++ [none]).map arm)) =
      some ((variants.map some ++ [none]).map pattern) := by
    refine readEach_eachWithComma ?_ ?_
    · rintro (_ | v) -
      · simp [arm, armTokens, kw, op, joined, isComma]
      · exact open_equalityArm v
    · rintro (_ | v) - t
      · rfl
      · exact readPairArm_equalityArm v t
  simpa [arm, pattern, Function.comp_def] using hread

theorem readEach_debugArms (variants : List Variant) :
    readEach isComma readArm [] (eachWithComma (variants.map Bucket.debugArm)) =
      some (variants.map Variant.pattern) :=
  readEach_eachWithComma (fun v _ => open_debugArm v) fun v _ t => readArm_debugArm v t

/-! ## Classifiers -/

section Bucket

variable (h : Hierarchy) (b : Bucket)

/-- A discriminator is read where it is used. -/
theorem readUse_discriminatorType : readUse b.discriminatorType = some b.use := by
  unfold Bucket.discriminatorType Bucket.use
  cases b.borrows <;> rfl

theorem readLifetime_declaredLifetime : readLifetime b.declaredLifetime = some b.borrows := by
  unfold Bucket.declaredLifetime
  cases b.borrows <;> rfl

/-- The result of a classifier of the base is read. -/
theorem readResult_classifierResult :
    readResult (Hierarchy.classifierResult b) = some (b.role.isSome, b.use) := by
  unfold Hierarchy.classifierResult Bucket.discriminatorType Bucket.use
  cases b.role <;> cases b.borrows <;> rfl

/-- A role's classifier is read as it is declared. -/
theorem readHead_required :
    readHead (b.classifierHead ++ b.discriminatorType) = some b.required := by
  have hresult : readResult b.discriminatorType = some (false, b.use) := by
    unfold Bucket.discriminatorType Bucket.use
    cases b.borrows <;> rfl
  change (readResult b.discriminatorType).map _ = _
  rw [hresult]
  rfl

/-- A classifier of the base is read as it is declared. -/
theorem readHead_classifier (vis : Visibility) :
    readHead (vis.tokens ++ b.classifierHead ++ Hierarchy.classifierResult b) =
      some ⟨b.classifier.text, b.role.isSome, b.use⟩ := by
  have hbare : bare (vis.tokens ++ b.classifierHead ++ Hierarchy.classifierResult b) =
      b.classifierHead ++ Hierarchy.classifierResult b := by
    rw [List.append_assoc]
    exact bare_vis (by decide)
  rw [readHead, hbare]
  change (readResult (Hierarchy.classifierResult b)).map _ = _
  rw [readResult_classifierResult]
  rfl

/-- No token of what a role declares closes it. -/
theorem open_required : Open isSemicolon (b.classifierHead ++ b.discriminatorType) := by
  unfold Bucket.classifierHead Bucket.discriminatorType
  split <;>
    simp [sharedSelf, angled, Lifetime.tokens, Ident.tokens, kw, op, joined, paren, isSemicolon]

/-- The case that a classifier yields for a variable is read back. -/
theorem readExpression_case (v : Variant) (argument : String) :
    readExpression (b.discriminator.tokens ++ op "::" ++ v.name.tokens ++
      if v.hasPayload then paren (kw argument) else []) = some (b.expression argument v) := by
  unfold Bucket.expression
  split <;> rfl

/-- An arm is read back. -/
theorem readRow_classifierArm (a : Hierarchy.Arm) (t : Token) :
    readRow (Hierarchy.classifierArm b a) t = some (b.row a) := by
  obtain ⟨v, answer⟩ := a
  cases answer with
  | case =>
    simp only [Hierarchy.classifierArm, Bucket.row, Bucket.expression]
    split <;> rfl
  | ofRole role => rfl
  | nothing => rfl

theorem open_classifierArm (a : Hierarchy.Arm) : Open isComma (Hierarchy.classifierArm b a) := by
  obtain ⟨v, answer⟩ := a
  cases answer with
  | case =>
    simp only [Hierarchy.classifierArm]
    split <;> simp [armTokens, selfCase, Ident.tokens, kw, op, joined, paren, isComma]
  | ofRole role =>
    simp [Hierarchy.classifierArm, armTokens, selfCase, Ident.tokens, kw, op, joined, paren,
      absolute, isComma]
  | nothing =>
    simp [Hierarchy.classifierArm, armTokens, selfCase, Ident.tokens, kw, op, joined, paren,
      absolute, isComma]

/-- The method of a role's implementation is read back. -/
theorem reads_roleMethod (v : Variant) :
    Reads isBody readMethod (b.classifierHead ++ b.discriminatorType ++
      brace (b.discriminator.tokens ++ op "::" ++ v.name.tokens ++
        if v.hasPayload then paren (kw "self") else [])) [b.roleMethod v] := by
  refine reads_block (by simp) ?_
  have hbody : readBody (b.discriminator.tokens ++ op "::" ++ v.name.tokens ++
      if v.hasPayload then paren (kw "self") else []) = some (.yields (b.expression "self" v)) := by
    rw [readBody, readExpression_case]
    · rfl
    -- the second token is punctuation, so the body is no `match` whatever the type is called
    · intro rows span span' span''
      simp [Ident.tokens, op, joined]
  rw [readMethod, readHead_required, Option.bind_some, inside, hbody]
  rfl

/-- A classifier of the base is read back. -/
theorem reads_classifierTokens :
    Reads isBody readMethod (h.classifierTokens b) [h.classifierMethod b] := by
  have hrows : readEach isComma readRow [] (eachWithComma
      ((h.arms b).map (Hierarchy.classifierArm b))) = some ((h.arms b).map b.row) :=
    readEach_eachWithComma (fun a _ => open_classifierArm b a)
      fun a _ t => readRow_classifierArm b a t
  have hvis : writtenVis (h.vis.tokens ++ b.classifierHead ++ Hierarchy.classifierResult b) =
      h.vis.tokens := by
    rw [List.append_assoc]
    exact writtenVis_vis (by decide)
  refine reads_block (by simp) ?_
  rw [readMethod, readHead_classifier, Option.bind_some, hvis]
  change ((readEach isComma readRow [] _).map Body.matches).map _ = _
  rw [hrows]
  rfl

/-! ## Declarations -/

/-- The enum of a discriminator is read back; its attribute is passed over. -/
theorem reads_discriminatorEnum (vis : Visibility) (derives : Tokens) :
    Reads isBody readDeclaration
      (op "#" ++ bracket derives ++ (vis.tokens ++ kw "enum" ++ (b.discriminator.tokens ++
        b.declaredLifetime)) ++ brace (eachWithComma (b.members.map Bucket.caseTokens)))
      [.enum vis.tokens b.discriminator.text b.borrows
        (b.members.map Variant.discriminatorCase)] := by
  refine reads_block (by simp) ?_
  have hbare : bare (op "#" ++ bracket derives ++ (vis.tokens ++ kw "enum" ++
      (b.discriminator.tokens ++ b.declaredLifetime))) =
      kw "enum" ++ (b.discriminator.tokens ++ b.declaredLifetime) := bare_head (by decide)
  have hvis : writtenVis (op "#" ++ bracket derives ++ (vis.tokens ++ kw "enum" ++
      (b.discriminator.tokens ++ b.declaredLifetime))) = vis.tokens := writtenVis_head (by decide)
  rw [readDeclaration, hbare, hvis]
  change (readLifetime b.declaredLifetime).bind _ = _
  rw [readLifetime_declaredLifetime, Option.bind_some, inside, readCases_discriminator]
  rfl

section Implementations

variable (head : Tokens) (value : Token) (hopen : Open isBody head)
include hopen

/-- The comparison of a discriminator is read back, whatever stands before its `match`. -/
theorem reads_comparison :
    Reads isBody readDeclaration (kw "impl" ++ absolute ["core", "cmp", "PartialEq"] ++
      kw "for" ++ b.discriminatorType ++ brace (head ++ brace (kw "match" ++ [value] ++ brace
        (eachWithComma
          (b.members.map Bucket.equalityArm ++ [armTokens (kw "_") (kw "false")])))))
      [.comparison b.use (b.members.map Variant.pattern ++ [.any])] := by
  refine reads_block (by simp) ?_
  change (readUse b.discriminatorType).bind _ = _
  rw [readUse_discriminatorType, Option.bind_some,
    readArms_eq .callSite hopen (readEach_equalityArms b.members)]
  rfl

/-- So is its text. -/
theorem reads_text :
    Reads isBody readDeclaration (kw "impl" ++ absolute ["core", "fmt", "Debug"] ++
      kw "for" ++ b.discriminatorType ++ brace (head ++ brace (kw "match" ++ [value] ++ brace
        (eachWithComma (b.members.map Bucket.debugArm)))))
      [.text b.use (b.members.map Variant.pattern)] := by
  refine reads_block (by simp) ?_
  change (readUse b.discriminatorType).bind _ = _
  rw [readUse_discriminatorType, Option.bind_some,
    readArms_eq .callSite hopen (readEach_debugArms b.members)]
  rfl

end Implementations

theorem reads_totality :
    Reads isBody readDeclaration (kw "impl" ++ absolute ["core", "cmp", "Eq"] ++ kw "for" ++
      b.discriminatorType ++ brace []) [.totality b.use] := by
  refine reads_block (by simp) ?_
  change (readUse b.discriminatorType).map _ = _
  rw [readUse_discriminatorType]
  rfl

/-- **A discriminator is read back**, with its comparison, its totality and its text. -/
theorem reads_discriminatorTokens (vis : Visibility) :
    Reads isBody readDeclaration (b.discriminatorTokens vis) (b.discriminatorDeclarations vis) := by
  have henum := reads_discriminatorEnum b vis (kw "derive" ++ paren (kw "Clone" ++ op "," ++
    kw "Copy"))
  have hcomparison := reads_comparison b
    (op "#" ++ bracket (kw "allow" ++ paren (kw "unreachable_patterns")) ++
      kw "fn" ++ kw "eq" ++
        paren (sharedSelf ++ op "," ++ kw "other" ++ op ":" ++ op "&" ++ kw "Self") ++
        op "->" ++ kw "bool")
    (.group .parenthesis (kw "self" ++ op "," ++ kw "other") .callSite) (by simp)
  have htext := reads_text b
    (kw "fn" ++ kw "fmt" ++
      paren (sharedSelf ++ op "," ++ kw "f" ++ op ":" ++ op "&" ++ kw "mut" ++
        absolute ["core", "fmt", "Formatter"] ++ angled "_") ++
      op "->" ++ absolute ["core", "fmt", "Result"])
    (.word "self" .callSite) (by simp)
  -- the four of them in the order in which they are written
  have hall := reads_append henum
    (reads_append hcomparison (reads_append (reads_totality b) htext))
  simp only [List.append_assoc] at hall
  unfold Bucket.discriminatorTokens
  simp only [List.append_assoc]
  exact hall

/-- **A role is read back**, with the implementations of its members. -/
theorem reads_roleTokens (vis : Visibility) :
    Reads isBody readDeclaration (b.roleTokens vis) (b.roleDeclarations vis) := by
  unfold Bucket.roleTokens Bucket.roleDeclarations
  cases b.role with
  | none => exact reads_nil
  | some role =>
    have htrait : Reads isBody readDeclaration (vis.tokens ++ kw "trait" ++ role.tokens ++
        brace (b.classifierHead ++ b.discriminatorType ++ op ";"))
        [.trait vis.tokens role.text b.required] := by
      refine reads_block (by simp) ?_
      have hmethod : Reads isSemicolon (fun ts _ => readHead ts)
          (b.classifierHead ++ b.discriminatorType ++ op ";") [b.required] :=
        reads_piece (open_required b) rfl (readHead_required b)
      have hrequired (span : Span) : readRequired (.group .brace
          (b.classifierHead ++ b.discriminatorType ++ op ";") span) = some b.required := by
        rw [readRequired, inside, hmethod.readEach_eq]
      rw [readDeclaration, bare_head (by decide), writtenVis_head (by decide)]
      change (readRequired _).map (Declaration.trait vis.tokens role.text) = _
      rw [hrequired]
      rfl
    have hmember (v : Variant) : Reads isBody readDeclaration (b.roleImplementation role v)
        [.implementation role.text v.name.text [b.roleMethod v]] := by
      refine reads_block (by simp) ?_
      change (readEach isBody readMethod [] _).map
        (Declaration.implementation role.text v.name.text) = _
      rw [inside, (reads_roleMethod b v).readEach_eq]
      rfl
    have hmembers := reads_flatMap (l := b.members) fun v _ => hmember v
    rw [← List.map_eq_flatMap] at hmembers
    exact reads_append htrait hmembers

end Bucket

/-- The base is read back. -/
theorem reads_baseTokens (h : Hierarchy) :
    Reads isBody readDeclaration h.baseTokens
      [.enum h.vis.tokens h.base.text false (h.variants.map Variant.baseCase)] := by
  refine reads_block (by simp) ?_
  rw [readDeclaration, bare_head (by decide), writtenVis_head (by decide)]
  change (readEach isComma readCase [] _).map _ = _
  rw [inside, readCases_base]
  rfl

/-- **The code of a hierarchy reads as its declarations.** -/
theorem read_tokens (h : Hierarchy) : read h.tokens = some h.declarations := by
  have hconversions : Reads isBody readDeclaration (h.variants.flatMap h.conversionTokens)
      (h.variants.map fun v => .conversion v.name.text h.base.text) := by
    rw [List.map_eq_flatMap]
    exact reads_flatMap fun v _ => reads_block (by simp) rfl
  have hdiscriminators : Reads isBody readDeclaration
      (h.buckets.flatMap (Bucket.discriminatorTokens h.vis))
      (h.buckets.flatMap (Bucket.discriminatorDeclarations h.vis)) :=
    reads_flatMap fun b _ => reads_discriminatorTokens b h.vis
  have hclassifiers : Reads isBody readDeclaration
      (kw "impl" ++ h.base.tokens ++ brace (h.buckets.flatMap h.classifierTokens))
      [.methods h.base.text (h.buckets.map h.classifierMethod)] := by
    refine reads_block (by simp) ?_
    have hmethods := reads_flatMap (l := h.buckets) fun b _ => reads_classifierTokens h b
    rw [← List.map_eq_flatMap] at hmethods
    change (readEach isBody readMethod [] _).map (Declaration.methods h.base.text) = _
    rw [inside, hmethods.readEach_eq]
    rfl
  have hroles : Reads isBody readDeclaration (h.buckets.flatMap (Bucket.roleTokens h.vis))
      (h.buckets.flatMap (Bucket.roleDeclarations h.vis)) :=
    reads_flatMap fun b _ => reads_roleTokens b h.vis
  have hall := reads_append (reads_append (reads_append (reads_append (reads_baseTokens h)
    hconversions) hdiscriminators) hclassifiers) hroles
  have htokens : h.tokens = h.baseTokens ++ h.variants.flatMap h.conversionTokens ++
      h.buckets.flatMap (Bucket.discriminatorTokens h.vis) ++
      (kw "impl" ++ h.base.tokens ++ brace (h.buckets.flatMap h.classifierTokens)) ++
      h.buckets.flatMap (Bucket.roleTokens h.vis) := by
    simp only [Hierarchy.tokens, List.append_assoc]
  rw [htokens]
  exact hall.readEach_eq

end DeclSynth.Sealed
