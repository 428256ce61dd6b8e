import DeclSynth.Expansion.Sealed.Hierarchy

/-!
# The code of a sealed hierarchy

The base is an enum with one case for each variant, and every variant converts into it.
A discriminator is an enum with one case for each member of its bucket; a case refers to
its variant if that holds state. The base classifies its values by every bucket. A role
is a trait with its classifier, which every member implements.
-/

namespace DeclSynth.Sealed

/-- The tokens of a lifetime between angle brackets. -/
def angled (name : String) : Tokens := op "<" ++ Lifetime.tokens ⟨name, .callSite⟩ ++ op ">"

/-- The tokens of the type itself, inside an implementation. -/
def selfCase (v : Variant) : Tokens := kw "Self" ++ op "::" ++ v.name.tokens

/-- The tokens of a receiver behind a reference. -/
def sharedSelf : Tokens := op "&" ++ kw "self"

/-- The tokens of an arm of a `match`. -/
def armTokens (pattern value : Tokens) : Tokens := pattern ++ op "=>" ++ value

namespace Bucket

/-- The lifetime parameter of the discriminator, where it is declared. -/
def declaredLifetime (b : Bucket) : Tokens := if b.borrows then angled "a" else []

/-- The discriminator, where it is used. -/
def discriminatorType (b : Bucket) : Tokens :=
  b.discriminator.tokens ++ if b.borrows then angled "_" else []

/-- The tokens of a case. -/
def caseTokens (v : Variant) : Tokens :=
  v.name.tokens ++
    if v.hasPayload then paren (op "&" ++ Lifetime.tokens ⟨"a", .callSite⟩ ++ v.name.tokens) else []

/-- The arm that compares two discriminators of one case: by the identity of what they refer to. -/
def equalityArm (v : Variant) : Tokens :=
  let pair (a b : Tokens) := paren (a ++ op "," ++ b)
  if v.hasPayload then
    armTokens (pair (selfCase v ++ paren (kw "lhs")) (selfCase v ++ paren (kw "rhs")))
      (absolute ["core", "ptr", "eq"] ++ paren (op "*" ++ kw "lhs" ++ op "," ++ op "*" ++ kw "rhs"))
  else armTokens (pair (selfCase v) (selfCase v)) (kw "true")

/-- The arm that writes a case: its name, with dots where it refers to a value. -/
def debugArm (v : Variant) : Tokens :=
  let write (text : String) := kw "f" ++ op "." ++ kw "write_str" ++ paren (str text)
  if v.hasPayload then
    armTokens (selfCase v ++ paren (kw "_")) (write (v.name.text ++ "(..)"))
  else armTokens (selfCase v) (write v.name.text)

/-- The tokens of the discriminator and of what it implements. -/
def discriminatorTokens (vis : Visibility) (b : Bucket) : Tokens :=
  op "#" ++ bracket (kw "derive" ++ paren (kw "Clone" ++ op "," ++ kw "Copy")) ++
  vis.tokens ++ kw "enum" ++ b.discriminator.tokens ++ b.declaredLifetime ++
    brace (eachWithComma (b.members.map caseTokens)) ++
  kw "impl" ++ absolute ["core", "cmp", "PartialEq"] ++ kw "for" ++ b.discriminatorType ++ brace (
    op "#" ++ bracket (kw "allow" ++ paren (kw "unreachable_patterns")) ++
    kw "fn" ++ kw "eq" ++
      paren (sharedSelf ++ op "," ++ kw "other" ++ op ":" ++ op "&" ++ kw "Self") ++
      op "->" ++ kw "bool" ++ brace (
        kw "match" ++ paren (kw "self" ++ op "," ++ kw "other") ++
          brace (eachWithComma
            (b.members.map equalityArm ++ [armTokens (kw "_") (kw "false")])))) ++
  kw "impl" ++ absolute ["core", "cmp", "Eq"] ++ kw "for" ++ b.discriminatorType ++ brace [] ++
  kw "impl" ++ absolute ["core", "fmt", "Debug"] ++ kw "for" ++ b.discriminatorType ++ brace (
    kw "fn" ++ kw "fmt" ++
      paren (sharedSelf ++ op "," ++ kw "f" ++ op ":" ++ op "&" ++ kw "mut" ++
        absolute ["core", "fmt", "Formatter"] ++ angled "_") ++
      op "->" ++ absolute ["core", "fmt", "Result"] ++
      brace (kw "match" ++ kw "self" ++ brace (eachWithComma (b.members.map debugArm))))

/-- The signature of the classifier up to its result. -/
def classifierHead (b : Bucket) : Tokens :=
  kw "fn" ++ b.classifier.tokens ++ paren sharedSelf ++ op "->"

/-- The implementation of a role by one of its members. -/
def roleImplementation (role : Ident) (b : Bucket) (v : Variant) : Tokens :=
  kw "impl" ++ role.tokens ++ kw "for" ++ v.name.tokens ++ brace (
    b.classifierHead ++ b.discriminatorType ++
      brace (b.discriminator.tokens ++ op "::" ++ v.name.tokens ++
        if v.hasPayload then paren (kw "self") else []))

/-- The tokens of a role and of its members' implementations; nothing for all variants. -/
def roleTokens (vis : Visibility) (b : Bucket) : Tokens :=
  match b.role with
  | none => []
  | some role =>
    vis.tokens ++ kw "trait" ++ role.tokens ++
      brace (b.classifierHead ++ b.discriminatorType ++ op ";") ++
      b.members.flatMap (roleImplementation role b)

end Bucket

namespace Hierarchy

/-- The tokens of the base. -/
def baseTokens (h : Hierarchy) : Tokens :=
  h.vis.tokens ++ kw "enum" ++ h.base.tokens ++
    brace (eachWithComma (h.variants.map fun v => v.name.tokens ++ paren v.name.tokens))

/-- The tokens of a variant's conversion into the base. -/
def conversionTokens (h : Hierarchy) (v : Variant) : Tokens :=
  kw "impl" ++ absolute ["core", "convert", "From"] ++ op "<" ++ v.name.tokens ++ op ">" ++
    kw "for" ++ h.base.tokens ++ brace (
      kw "fn" ++ kw "from" ++ paren (kw "value" ++ op ":" ++ v.name.tokens) ++ op "->" ++
        kw "Self" ++ brace (selfCase v ++ paren (kw "value")))

/-- The tokens of an arm of a classifier. -/
def classifierArm (b : Bucket) (a : Arm) : Tokens :=
  let v := a.variant
  match a.answer with
  | .case =>
    if v.hasPayload then
      armTokens (selfCase v ++ paren (kw "value"))
        (b.discriminator.tokens ++ op "::" ++ v.name.tokens ++ paren (kw "value"))
    else
      armTokens (selfCase v ++ paren (kw "_"))
        (b.discriminator.tokens ++ op "::" ++ v.name.tokens)
  | .ofRole role =>
    armTokens (selfCase v ++ paren (kw "value"))
      (absolute ["core", "option", "Option", "Some"] ++
        paren (role.tokens ++ op "::" ++ b.classifier.tokens ++ paren (kw "value")))
  | .nothing =>
    armTokens (selfCase v ++ paren (kw "_")) (absolute ["core", "option", "Option", "None"])

/-- The result type of a classifier of the base: optional for a role. -/
def classifierResult (b : Bucket) : Tokens :=
  match b.role with
  | none => b.discriminatorType
  | some _ => absolute ["core", "option", "Option"] ++ op "<" ++ b.discriminatorType ++ op ">"

/-- The tokens of a classifier of the base. -/
def classifierTokens (h : Hierarchy) (b : Bucket) : Tokens :=
  h.vis.tokens ++ b.classifierHead ++ classifierResult b ++
    brace (kw "match" ++ kw "self" ++ brace (eachWithComma ((h.arms b).map (classifierArm b))))

/-- The tokens of everything that is generated. -/
def tokens (h : Hierarchy) : Tokens :=
  h.baseTokens ++ h.variants.flatMap h.conversionTokens ++
    h.buckets.flatMap (Bucket.discriminatorTokens h.vis) ++
    kw "impl" ++ h.base.tokens ++ brace (h.buckets.flatMap h.classifierTokens) ++
    h.buckets.flatMap (Bucket.roleTokens h.vis)

end Hierarchy

end DeclSynth.Sealed
