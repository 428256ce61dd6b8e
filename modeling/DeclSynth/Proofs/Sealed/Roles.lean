import DeclSynth.Proofs.Sealed.Buckets
import DeclSynth.Proofs.Sealed.Parts

/-!
# What a sealed module is made of

The marked structs of a module are grouped by the roles that they list: `groupsOf` has
one group for all of them and one for each role that is listed, in the order in which
the roles are declared. An expansion generates just what is owed to these groups, and
warns once of each role that is not listed (`expand_parts`).
-/

namespace DeclSynth.Sealed

open Parts (Entry Group parts)

variable {c : Config} {args item : Tokens} {suffix : String} {base role : Ident} {b : Bucket}
variable {roles : List Ident} {structs : List StructItem}

/-! ## Groups of structs -/

/-- A marked struct as a case, which refers to a value if the struct holds state. -/
def entryOf (s : StructItem) : Entry := ⟨s.name.text, holdsState s⟩

/-- Whether a struct lists a role. -/
def isListed (structs : List StructItem) (role : Ident) : Bool := structs.any (lists · role.text)

/-- The group of a role: the structs that list it. -/
def groupOf (suffix base : String) (structs : List StructItem) (role : Ident) : Group :=
  ⟨some role.text, Naming.discriminatorName role.text base suffix,
    Naming.classifierName (Naming.roleStem role.text base),
    (structs.filter (lists · role.text)).map entryOf⟩

/-- The group of all structs, and those of the roles that are listed. -/
def groupsOf (suffix base discriminator classifier : String) (roles : List Ident)
    (structs : List StructItem) : List Group :=
  ⟨none, discriminator, classifier, structs.map entryOf⟩ ::
    (roles.filter (isListed structs)).map (groupOf suffix base structs)

/-- The types of a group. -/
def typesOf (g : Group) : List String := g.discriminator :: g.role.toList

theorem isPlayed_variantOf : isPlayed (structs.map variantOf) = isListed structs := by
  funext role
  rw [isPlayed, isListed, List.any_map]
  exact congrArg _ (funext fun s => plays_variantOf s role)

/-- The bucket of a role is the group of the structs that list it. -/
theorem IsBucketOf.group_eq (h : IsBucketOf suffix base role (structs.map variantOf) b) :
    b.group = groupOf suffix base.text structs role := by
  have hmembers : b.members.map Variant.entry =
      (structs.filter (lists · role.text)).map entryOf := by
    rw [h.members_eq, List.filter_map, List.map_map]
    congr 1
    exact List.filter_congr fun s _ => plays_variantOf s role
  rw [Bucket.group, h.role_eq, h.discriminator_text, h.classifier_text, hmembers]
  rfl

theorem map_group_eq {new : List Bucket}
    (h : List.Forall₂ (fun role b => IsBucketOf suffix base role (structs.map variantOf) b)
      roles new) :
    new.map Bucket.group = roles.map (groupOf suffix base.text structs) := by
  induction h with
  | nil => rfl
  | cons hbucket _ ih => rw [List.map_cons, List.map_cons, hbucket.group_eq, ih]

/-- **The buckets of a hierarchy are the groups of its structs.** -/
theorem exists_groups_eq {items : List Item} {h : Hierarchy}
    (hbuild : (Hierarchy.build c base roles (structs.map variantOf) items).result = .ok h) :
    ∃ discriminator classifier, c.discriminator = .ok discriminator ∧
      c.classifier = .ok classifier ∧
      h.buckets.map Bucket.group = groupsOf c.sealedSuffix base.text discriminator.text
        classifier.text roles structs := by
  obtain ⟨discriminator, classifier, buckets, hdiscriminator, hclassifier, hbuckets, rfl, -⟩ :=
    build_eq_ok_iff.1 hbuild
  refine ⟨discriminator, classifier, hdiscriminator, hclassifier, ?_⟩
  obtain ⟨new, rfl, hnew⟩ := addRoles_eq_append hbuckets
  rw [isPlayed_variantOf] at hnew
  rw [List.map_append, map_group_eq hnew, aggregate, groupsOf, List.map_singleton, Bucket.group,
    List.map_map]
  rfl

/-- A getter hides the classifier of a role that is listed. -/
theorem isListed_of_mem_shadows {items : List Item} {h : Hierarchy} {s : Hierarchy.Shadow}
    (hbuild : (Hierarchy.build c base roles (structs.map variantOf) items).result = .ok h)
    (hs : s ∈ h.shadows items) : isListed structs s.role = true := by
  obtain ⟨discriminator, classifier, buckets, -, -, hbuckets, rfl, -⟩ := build_eq_ok_iff.1 hbuild
  obtain ⟨b, hb, hs⟩ := List.mem_flatMap.1 hs
  cases hrole : b.role with
  | none =>
    rw [hrole] at hs
    exact absurd hs List.not_mem_nil
  | some role =>
    simp only [hrole, List.mem_flatMap, List.mem_map] at hs
    obtain ⟨v, -, getter, -, rfl⟩ := hs
    rcases mem_of_addRoles_eq_ok hbuckets hb with hb | ⟨role', -, hplayed, hbucket⟩
    -- the group of all variants has no role
    · rw [aggregate, List.mem_singleton] at hb
      rw [hb] at hrole
      cases hrole
    · obtain rfl := Option.some.inj (hrole.symm.trans hbucket.role_eq)
      rw [← isPlayed_variantOf]
      exact isPlayed_iff.2 hplayed

/-- The types of a hierarchy are its base and those of its groups. -/
theorem map_text_typeNames (h : Hierarchy) :
    h.typeNames.map (·.text) =
      h.base.text :: (h.buckets.map Bucket.group).flatMap typesOf := by
  rw [Hierarchy.typeNames, List.map_cons, List.map_flatMap, List.flatMap_map]
  congr 2
  funext b
  cases hrole : b.role <;> simp [typesOf, Bucket.group, hrole]

/-! ## Sealed modules -/

/-- **What a sealed module is made of.** A module with marked structs comes out with code behind its
items that reads as what is owed to the groups of the structs, the types of which have different
names. Each declared role that no struct lists is reported once; all other reports are about a role
that is listed. -/
theorem expand_parts {out : Tokens} (hout : (expand c args item).result = .ok out) :
    ∃ m : Invocation args item, markedStructs m.items ≠ [] →
      ∃ discriminator classifier generated, ∃ shadows : List Hierarchy.Shadow,
        c.discriminator = .ok discriminator ∧ c.classifier = .ok classifier ∧
        out = m.withItems (m.unmarked ++ [.verbatim generated]) ∧
        let structs := markedStructs m.items
        let groups := groupsOf c.sealedSuffix m.base.text discriminator.text classifier.text
          m.roles structs
        Parts.read generated = some (parts m.base.text (structs.map entryOf) groups) ∧
          (m.base.text :: groups.flatMap typesOf).Nodup ∧
          (m.roles.map (·.text)).Nodup ∧
          (expand c args item).diagnostics =
            (m.roles.filter fun role => !isListed structs role).map unplayedWarning ++
              shadows.map Hierarchy.Shadow.warning ∧
          ∀ s ∈ shadows, isListed structs s.role = true := by
  obtain ⟨m, items, hitems, rfl⟩ := exists_of_expand_eq_ok hout
  refine ⟨m, fun hmarked => ?_⟩
  obtain ⟨h, hbuild, rfl, hreports⟩ := Invocation.exists_of_sealedItems_eq_ok hitems hmarked
  obtain ⟨discriminator, classifier, hdiscriminator, hclassifier, hgroups⟩ :=
    exists_groups_eq hbuild
  have hbuilt := build_eq_ok hbuild
  have htypes := hbuilt.types_nodup
  have hread := Parts.read_tokens h
  have hentries : h.variants.map Variant.entry = (markedStructs m.items).map entryOf := by
    rw [hbuilt.variants_eq, Invocation.variants, List.map_map]
    rfl
  rw [map_text_typeNames, hbuilt.base_eq, hgroups] at htypes
  rw [hbuilt.base_eq, hgroups, hentries] at hread
  refine ⟨discriminator, classifier, h.tokens, h.shadows m.unmarked, hdiscriminator, hclassifier,
    rfl, hread, htypes, nodup_declaredRoles m.roles_eq, ?_, fun s hs =>
      isListed_of_mem_shadows hbuild hs⟩
  rw [m.diagnostics_expand, hreports, Invocation.variants, isPlayed_variantOf]

/-- `mod shape { #[variant(Round)] struct Circle(u8); #[variant(Flat)] struct Blank; }` -/
def groupedSample : Tokens :=
  kw "mod" ++ kw "shape" ++ brace (
    op "#" ++ bracket (kw "variant" ++ paren (kw "Round")) ++
      kw "struct" ++ kw "Circle" ++ paren (kw "u8") ++ op ";" ++
    op "#" ++ bracket (kw "variant" ++ paren (kw "Flat")) ++
      kw "struct" ++ kw "Blank" ++ op ";")

/-- `roles = [Flat, Square, Round]` -/
def groupedRoles : Tokens :=
  kw "roles" ++ op "=" ++ bracket (kw "Flat" ++ op "," ++ kw "Square" ++ op "," ++ kw "Round")

/-- Whether an item is a module with marked structs. -/
def isMarkedModule : Item → Bool
  | .mod _ _ _ _ (some items) => !(markedStructs items).isEmpty
  | _ => false

/-- A module with a role for a struct that holds state, one for a struct that holds none, and one
that no struct lists comes out with the code for its groups. -/
theorem expand_parts_grouped : ∃ out,
    (expand .default groupedRoles groupedSample).result = .ok out ∧
    ∃ m : Invocation groupedRoles groupedSample, markedStructs m.items ≠ [] ∧
      ∃ discriminator classifier generated,
        out = m.withItems (m.unmarked ++ [.verbatim generated]) ∧
        Parts.read generated = some (parts m.base.text ((markedStructs m.items).map entryOf)
          (groupsOf Config.default.sealedSuffix m.base.text discriminator classifier m.roles
            (markedStructs m.items))) := by
  obtain ⟨out, hout⟩ := exists_eq_ok_of_isOk
    (x := (expand .default groupedRoles groupedSample).result) (by decide +kernel)
  obtain ⟨m, hparts⟩ := expand_parts hout
  have hmarked : (Item.parse groupedSample).toOption.any isMarkedModule = true := by decide +kernel
  rw [m.item_eq] at hmarked
  simp only [Except.toOption, Option.any_some, isMarkedModule, Bool.not_eq_true',
    List.isEmpty_eq_false_iff] at hmarked
  obtain ⟨discriminator, classifier, generated, shadows, -, -, hgenerated, hread, -⟩ :=
    hparts hmarked
  exact ⟨out, hout, m, hmarked, discriminator.text, classifier.text, generated, hgenerated, hread⟩

end DeclSynth.Sealed
