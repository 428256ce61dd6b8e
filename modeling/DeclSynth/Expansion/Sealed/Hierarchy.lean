import DeclSynth.Config.Runtime
import DeclSynth.Expansion.InContext
import DeclSynth.Expansion.Sealed.Variant
import DeclSynth.Naming

/-!
# Sealed hierarchies

The variants of a module form a closed hierarchy under a base. A `Bucket` is a group of
variants with a discriminator, the type that tells them apart, and a classifier, the
method that yields it. The first bucket holds all variants; each role that is played
adds one. The names that a hierarchy generates are distinct from one another and from
those of the module's own items, which `Hierarchy.build` checks.
-/

namespace DeclSynth.Sealed

/-- A group of variants, its discriminator and its classifier; the group of all variants has
no role. -/
structure Bucket where
  role : Option Ident
  discriminator : Ident
  classifier : Ident
  members : List Variant

/-- Whether a discriminator refers to values: one of its variants holds state. -/
def Bucket.borrows (b : Bucket) : Bool := b.members.any (·.hasPayload)

/-- A closed hierarchy. -/
structure Hierarchy where
  base : Ident
  /-- How far everything generated can be seen. -/
  vis : Visibility
  variants : List Variant
  buckets : List Bucket

/-! ## Visibility -/

/-- How a visibility is written. -/
def visibilityText (vis : Visibility) : String := vis.tokens.render

/-- As far as the crate reaches. -/
def crateWide : Visibility :=
  .restricted false false [.word ['c', 'r', 'a', 't', 'e'] (by decide)]

/-- How far what is generated can be seen: as far as the variants if they are all written alike;
throughout the crate if each is seen there or everywhere; else only by what surrounds it. -/
def sharedVisibility (variants : List Variant) : Visibility :=
  let texts := variants.map (visibilityText ·.vis)
  let narrow :=
    if texts.all fun t => t == visibilityText .everywhere || t == visibilityText crateWide then
      crateWide
    else .inherited
  match variants with
  | [] => narrow
  | first :: _ => if texts.all (· == visibilityText first.vis) then first.vis else narrow

/-! ## Buckets -/

/-- The name that two buckets have in common, if any: of their discriminators, or else of their
classifiers. -/
def Bucket.sharedName? (a b : Bucket) : Option Ident :=
  if a.discriminator.sameName b.discriminator then some b.discriminator
  else if a.classifier.sameName b.classifier then some b.classifier
  else none

/-- The bucket of a role, with the names that the role and the base give it. -/
def Bucket.ofRole (suffix : String) (base role : Ident) (members : List Variant) :
    Except NameFault Bucket := do
  let discriminator ← Ident.ofText (Naming.discriminatorName role.text base.text suffix) .callSite
  let classifier ←
    Ident.ofText (Naming.classifierName (Naming.roleStem role.text base.text)) .callSite
  return ⟨some role, discriminator, classifier, members⟩

/-- Checks that a bucket has no name in common with the ones before it. -/
def Bucket.checkAgainst (base role : Ident) (bucket : Bucket) (existing : List Bucket) :
    Except Failure Unit :=
  match existing.findSome? fun b => (b.sharedName? bucket).map fun name => (b, name) with
  | none => .ok ()
  | some (b, name) =>
    .error ((ExpandError.discriminatorNameClash (b.role.getD base).text role.text name.text).at
      role.span)

/-- The buckets with those of further roles behind them. A role that no variant plays gets a
warning and no bucket. -/
def addRolesInContext (suffix : String) (base : Ident) (variants : List Variant)
    (buckets : List Bucket) : List Ident → InContext (List Bucket)
  | [] => return buckets
  | role :: rest => do
    let members := variants.filter (·.plays role)
    if members.isEmpty then
      .warn role.span
        ("role `" ++ role.text ++ "` has no variants; nothing is generated for it")
      addRolesInContext suffix base variants buckets rest
    else
      let bucket ← Bucket.ofRole suffix base role members
      bucket.checkAgainst base role buckets
      addRolesInContext suffix base variants (buckets ++ [bucket]) rest

/-- What buckets become with further roles, in a context in which nothing has been reported. The
configuration plays no part. -/
def addRoles (suffix : String) (base : Ident) (variants : List Variant) (buckets : List Bucket)
    (roles : List Ident) : Outcome (List Bucket) :=
  (addRolesInContext suffix base variants buckets roles).fresh .default

namespace Hierarchy

/-! ## Checks -/

/-- The names of the types that are generated, in the order in which they are checked. -/
def typeNames (h : Hierarchy) : List Ident :=
  h.base :: h.buckets.flatMap fun b => b.discriminator :: b.role.toList

/-- The first name that occurs a second time, given the names before. -/
def firstRepeated? (seen : List Ident) : List Ident → Option Ident
  | [] => none
  | name :: rest =>
    if seen.any name.sameName then some name else firstRepeated? (name :: seen) rest

/-- The functions among the members of implementations. -/
def methodNames (impls : List ImplItem) : List Ident :=
  impls.flatMap fun i => i.members.filterMap Member.fnName?

/-- A generated name that is taken, at a place. -/
def clash {α : Type} (name : String) (span : Span) : Except Failure α :=
  .error ((ExpandError.generatedNameClash name).at span)

/-- Checks that the generated types have names of their own, which no item of the module has
either. -/
def checkTypes (h : Hierarchy) (items : List Item) : Except Failure Unit :=
  match firstRepeated? [] h.typeNames with
  | some name => clash name.text name.span
  | none =>
    match (items.filterMap Item.name?).find? fun name => h.typeNames.any name.sameName with
    | some name => clash name.text name.span
    | none => .ok ()

/-- Checks that the base has no method yet with the name of a classifier. -/
def checkMethods (h : Hierarchy) (items : List Item) : Except Failure Unit :=
  let taken := (methodNames (Item.inherentImpls items h.base)).find? fun name =>
    h.buckets.any fun b => b.classifier.sameName name
  match taken with
  | some name => clash (h.base.text ++ "::" ++ name.text) name.span
  | none => .ok ()

/-- A getter of a member of a role that hides the role's classifier. -/
structure Shadow where
  member : Variant
  getter : Ident
  role : Ident
  classifier : Ident

/-- The getters that hide a classifier. -/
def shadows (h : Hierarchy) (items : List Item) : List Shadow :=
  h.buckets.flatMap fun b =>
    match b.role with
    | none => []
    | some role => b.members.flatMap fun member =>
      ((Item.computedProperties items member.name).filter (·.sameName b.classifier)).map
        fun getter => ⟨member, getter, role, b.classifier⟩

/-- The warning of a getter that hides a classifier. -/
def Shadow.warning (s : Shadow) : Diagnostic :=
  ⟨"`" ++ s.member.name.text ++ "::" ++ s.getter.text ++
    "` shadows the classifier generated for role `" ++ s.role.text ++ "`; call it as `" ++
    s.role.text ++ "::" ++ s.classifier.text ++ "(&value)`", .warning, s.getter.span⟩

/-- The hierarchy of variants under a base, with the roles that are allowed. -/
def buildInContext (base : Ident) (roles : List Ident) (variants : List Variant)
    (items : List Item) : InContext Hierarchy := do
  let c ← .config
  let discriminator ← Config.reportAt .callSite c.discriminator
  let classifier ← Config.reportAt .callSite c.classifier
  let buckets ← addRolesInContext c.sealedSuffix base variants
    [⟨none, discriminator, classifier, variants⟩] roles
  let h : Hierarchy := ⟨base, sharedVisibility variants, variants, buckets⟩
  h.checkTypes items
  h.checkMethods items
  (h.shadows items).forM fun s => .report s.warning
  return h

/-- What a hierarchy is built to, in a context in which nothing has been reported. -/
def build (c : Config) (base : Ident) (roles : List Ident) (variants : List Variant)
    (items : List Item) : Outcome Hierarchy :=
  (buildInContext base roles variants items).fresh c

/-! ## Classifiers -/

/-- What a classifier of the base yields for one of its cases. -/
inductive Answer where
  /-- The case of the discriminator with the variant's name. -/
  | case
  /-- What the role's own classifier yields. -/
  | ofRole (role : Ident)
  /-- Nothing, as the variant does not play the role. -/
  | nothing
deriving DecidableEq

/-- A variant and what a classifier yields for it. -/
structure Arm where
  variant : Variant
  answer : Answer

/-- What the classifier of a bucket yields for a variant. -/
def answerFor (b : Bucket) (v : Variant) : Answer :=
  match b.role with
  | none => .case
  | some role => if v.plays role then .ofRole role else .nothing

/-- The classifier of a bucket, as a table over the cases of the base. -/
def arms (h : Hierarchy) (b : Bucket) : List Arm := h.variants.map fun v => ⟨v, answerFor b v⟩

end Hierarchy

end DeclSynth.Sealed
