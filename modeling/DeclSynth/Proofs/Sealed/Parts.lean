import DeclSynth.Proofs.Sealed.ReadBack

/-!
# The parts of generated code

A part tells what a declaration is for, and where it takes up what a case holds: an
enum with its lifetime and its cases, the arms of its comparison and of its text, and
every place where a discriminator is used as a type, with or without a lifetime.
`parts` lists what is owed to some groups of cases, in order, and the code of a
hierarchy reads as just that (`read_tokens`).
-/

namespace DeclSynth.Sealed.Parts

open Code (Case Declaration MethodHead Pattern Use)

/-! ## Parts -/

/-- A part of generated code. -/
inductive Part where
  | enum (name : String) (lifetime : Bool) (cases : List Case)
  | conversion (source target : String)
  /-- `PartialEq`. -/
  | comparison (type : Use) (arms : List Pattern)
  /-- `Eq`. -/
  | totality (type : Use)
  /-- `Debug`. -/
  | text (type : Use) (arms : List Pattern)
  | classifiers (base : String) (methods : List MethodHead)
  | trait (role : String) (methods : List MethodHead)
  | implementation (role type : String) (methods : List MethodHead)
deriving DecidableEq, Repr

/-- The part that a declaration is: who sees it and what its methods do is left out. -/
def partOf : Declaration → Part
  | .enum _ name lifetime cases => .enum name lifetime cases
  | .conversion source target => .conversion source target
  | .comparison type arms => .comparison type arms
  | .totality type => .totality type
  | .text type arms => .text type arms
  | .methods base methods => .classifiers base (methods.map (·.toMethodHead))
  | .trait _ role method => .trait role [method]
  | .implementation role type methods => .implementation role type (methods.map (·.toMethodHead))

/-- The parts of code. -/
def read (code : Tokens) : Option (List Part) := (Code.read code).map (·.map partOf)

/-! ## What is owed -/

/-- A case: the variant's name, and whether it refers to a value. -/
structure Entry where
  name : String
  payload : Bool
deriving DecidableEq, Repr

namespace Entry

/-- The case of the base. -/
def baseCase (e : Entry) : Case := ⟨e.name, .owned e.name⟩

/-- The case of a discriminator. -/
def case (e : Entry) : Case := ⟨e.name, if e.payload then .borrowed e.name else .nothing⟩

/-- What an arm for the case is for. -/
def pattern (e : Entry) : Pattern := .case e.name e.payload

end Entry

/-- A group of cases with a discriminator and a classifier; the group of all cases has no role. -/
structure Group where
  role : Option String
  discriminator : String
  classifier : String
  members : List Entry
deriving DecidableEq, Repr

namespace Group

/-- Whether a case of the group refers to a value. -/
def borrows (g : Group) : Bool := g.members.any (·.payload)

/-- The discriminator where it is used. -/
def use (g : Group) : Use := ⟨g.discriminator, g.borrows⟩

/-- The discriminator and what it implements. -/
def discriminatorParts (g : Group) : List Part :=
  [.enum g.discriminator g.borrows (g.members.map Entry.case),
    .comparison g.use (g.members.map Entry.pattern ++ [.any]), .totality g.use,
    .text g.use (g.members.map Entry.pattern)]

/-- The role and the implementations of its members; nothing for all cases. -/
def roleParts (g : Group) : List Part :=
  match g.role with
  | none => []
  | some role =>
    .trait role [⟨g.classifier, false, g.use⟩] ::
      g.members.map fun e => .implementation role e.name [⟨g.classifier, false, g.use⟩]

/-- The classifier of the base: optional for a role. -/
def signature (g : Group) : MethodHead := ⟨g.classifier, g.role.isSome, g.use⟩

end Group

/-- **What is owed to a base with some cases, in some groups**: the base and the conversions into
it, a discriminator for each group, one classifier for each, and the roles with their members. -/
def parts (base : String) (entries : List Entry) (groups : List Group) : List Part :=
  [.enum base false (entries.map Entry.baseCase)] ++
    entries.map (fun e => .conversion e.name base) ++
    groups.flatMap Group.discriminatorParts ++
    [.classifiers base (groups.map Group.signature)] ++
    groups.flatMap Group.roleParts

end Parts

/-- A variant as a case. -/
def Variant.entry (v : Variant) : Parts.Entry := ⟨v.name.text, v.hasPayload⟩

/-- A bucket as a group. -/
def Bucket.group (b : Bucket) : Parts.Group :=
  ⟨b.role.map (·.text), b.discriminator.text, b.classifier.text, b.members.map Variant.entry⟩

namespace Parts

/-! ## Reading a hierarchy -/

section Bucket

variable (h : Hierarchy) (b : Bucket)

/-- A discriminator is used as the one of its group is. -/
theorem use_group : b.group.use = b.use := by
  simp [Group.use, Group.borrows, Bucket.group, Bucket.use, Bucket.borrows, Variant.entry,
    List.any_map, Function.comp_def]

/-- **A discriminator's parts** are those that are owed to its group. -/
theorem map_partOf_discriminatorDeclarations (vis : Visibility) :
    (b.discriminatorDeclarations vis).map partOf = b.group.discriminatorParts := by
  have hborrows : b.group.borrows = b.borrows := congrArg Code.Use.lifetime (use_group b)
  have hcases : b.group.members.map Entry.case = b.members.map Variant.discriminatorCase := by
    rw [Bucket.group, List.map_map]
    rfl
  have hpatterns : b.group.members.map Entry.pattern = b.members.map Variant.pattern := by
    rw [Bucket.group, List.map_map]
    rfl
  rw [Group.discriminatorParts, use_group, hborrows, hcases, hpatterns]
  rfl

/-- **A role's parts** are those that are owed to its group. -/
theorem map_partOf_roleDeclarations (vis : Visibility) :
    (b.roleDeclarations vis).map partOf = b.group.roleParts := by
  rw [Bucket.roleDeclarations, Group.roleParts, use_group]
  cases hrole : b.role <;> simp [Bucket.group, hrole, partOf, Bucket.roleMethod, Bucket.required,
    Variant.entry, Function.comp_def]

/-- A classifier of the base declares what is owed to its group. -/
theorem toMethodHead_classifierMethod :
    (h.classifierMethod b).toMethodHead = b.group.signature := by
  rw [Group.signature, use_group]
  simp [Hierarchy.classifierMethod, Bucket.group]

end Bucket

/-- **The code of a hierarchy reads as what is owed to its variants in their buckets.** -/
theorem read_tokens (h : Hierarchy) :
    read h.tokens =
      some (parts h.base.text (h.variants.map Variant.entry) (h.buckets.map Bucket.group)) := by
  have hbase : partOf (.enum h.vis.tokens h.base.text false (h.variants.map Variant.baseCase)) =
      .enum h.base.text false ((h.variants.map Variant.entry).map Entry.baseCase) := by
    rw [List.map_map]
    rfl
  have hclassifiers : partOf (.methods h.base.text (h.buckets.map h.classifierMethod)) =
      .classifiers h.base.text ((h.buckets.map Bucket.group).map Group.signature) := by
    rw [partOf, List.map_map, List.map_map]
    exact congrArg _ (List.map_congr_left fun b _ => toMethodHead_classifierMethod h b)
  rw [read, Sealed.read_tokens, Option.map_some, Hierarchy.declarations, parts]
  simp only [List.map_append, List.map_flatMap, List.flatMap_map, List.map_map, List.map_cons,
    List.map_nil, hbase, hclassifiers, map_partOf_discriminatorDeclarations,
    map_partOf_roleDeclarations]
  rfl

end Parts

end DeclSynth.Sealed
