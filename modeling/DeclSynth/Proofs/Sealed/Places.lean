import DeclSynth.Proofs.Argument
import DeclSynth.Proofs.Sealed.Marks

/-!
# Where the arguments of `#[sealed]` are written

The base and the roles come from the arguments, and with them their places. Places are
not read on the way from there to the code of a hierarchy: each step comes to the same,
places aside, if the base and the roles are taken without their places
(`addRoles_unplaced`, `build_unplaced`, `Hierarchy.tokens_unplaced`). So lists that are
permuted and accepted seal a module alike (`expand_of_permuted`).
-/

namespace DeclSynth.Sealed

open ArgumentList

variable {c : Config} {l₁ l₂ : ArgumentList} {roles roles₁ roles₂ : List Ident}
  {base base₁ base₂ module : Ident} {items : List Item} {variants : List Variant}

theorem any_sameName_unplaced (names : List Ident) (name : Ident) :
    (names.map Ident.unplaced).any name.sameName = names.any name.sameName := List.any_map

/-! ## Arguments -/

theorem checkDistinct_unplaced (seen roles : List Ident) :
    placeless id (checkDistinct (seen.map Ident.unplaced) (roles.map Ident.unplaced)) =
      placeless id (checkDistinct seen roles) := by
  induction roles generalizing seen with
  | nil => rfl
  | cons role rest ih =>
    have hseen : (seen.map Ident.unplaced).any role.unplaced.sameName = seen.any role.sameName :=
      any_sameName_unplaced seen role
    rw [List.map_cons, checkDistinct, checkDistinct, hseen]
    split
    · rfl
    · exact ih (role :: seen)

/-- **Permuted lists declare the same roles.** -/
theorem declaredRoles_of_permuted (h : Permuted l₁ l₂) (hvalid : l₁.validate spec = .ok ()) :
    placeless (List.map Ident.unplaced) (declaredRoles l₁) =
      placeless (List.map Ident.unplaced) (declaredRoles l₂) := by
  refine placeless_bind (h.identList hvalid "roles") fun roles₁ roles₂ hroles => ?_
  have hdistinct : placeless id (checkDistinct [] roles₁) =
      placeless id (checkDistinct [] roles₂) := by
    rw [← checkDistinct_unplaced, ← checkDistinct_unplaced [] roles₂, hroles]
  exact placeless_bind hdistinct fun _ _ _ => congrArg Except.ok hroles

/-- The base that is given, or else the one that the module's name makes. -/
def chosenBase (module : Ident) : Option Ident → Except Failure Ident
  | some base => .ok base
  | none =>
    match identOfText? (Naming.toUpperCamelCase module.plainText) with
    | some base => .ok base
    | none =>
      .error ((ExpandError.invalidArgument "base"
        "an identifier; the module name does not convert to one").at module.span)

theorem baseOf_eq (l : ArgumentList) (module : Ident) :
    baseOf l module = l.ident "base" >>= chosenBase module := by
  unfold baseOf chosenBase
  generalize identOfText? (Naming.toUpperCamelCase module.plainText) = derived
  rcases l.ident "base" with f | _ | base
  · rfl
  · cases derived <;> rfl
  · rfl

/-- **Permuted lists give the same base.** -/
theorem baseOf_of_permuted (h : Permuted l₁ l₂) (hvalid : l₁.validate spec = .ok ())
    (module : Ident) :
    placeless Ident.unplaced (baseOf l₁ module) = placeless Ident.unplaced (baseOf l₂ module) := by
  rw [baseOf_eq, baseOf_eq]
  refine placeless_bind (h.ident hvalid "base") fun found₁ found₂ hfound => ?_
  obtain ⟨rfl, rfl⟩ | ⟨base₁, base₂, rfl, rfl, hbase⟩ := map_eq_map_cases hfound
  · rfl
  · exact congrArg Except.ok hbase

/-! ## Variants -/

theorem collect_unplaced (declared : List Ident) (items : List Item) :
    Variant.collect (declared.map Ident.unplaced) items = Variant.collect declared items := by
  have hrole : Variant.addRole (declared.map Ident.unplaced) = Variant.addRole declared := by
    funext own role
    simp only [Variant.addRole, any_sameName_unplaced]
  have hitem : Variant.ofItem? (declared.map Ident.unplaced) = Variant.ofItem? declared := by
    unfold Variant.ofItem? Variant.rolesOf Variant.addListed
    rw [hrole]
  induction items with
  | nil => rfl
  | cons item rest ih => rw [Variant.collect, Variant.collect, hitem, ih]

/-! ## Buckets -/

/-- A bucket without the place of its role. -/
def Bucket.unplaced (b : Bucket) : Bucket := { b with role := b.role.map Ident.unplaced }

theorem Bucket.ofRole_unplaced (suffix : String) (base role : Ident) (members : List Variant) :
    Bucket.ofRole suffix base.unplaced role.unplaced members =
      (Bucket.ofRole suffix base role members).map Bucket.unplaced := by
  unfold Bucket.ofRole
  simp only [Ident.text_unplaced]
  cases Ident.ofText (Naming.discriminatorName role.text base.text suffix) .callSite with
  | error fault => rfl
  | ok discriminator =>
    cases Ident.ofText (Naming.classifierName (Naming.roleStem role.text base.text)) .callSite <;>
      rfl

theorem Bucket.checkAgainst_unplaced (base role : Ident) (bucket : Bucket)
    (existing : List Bucket) :
    placeless id (bucket.unplaced.checkAgainst base.unplaced role.unplaced
        (existing.map Bucket.unplaced)) =
      placeless id (bucket.checkAgainst base role existing) := by
  have hshared : ((existing.map Bucket.unplaced).findSome? fun b =>
        (b.sharedName? bucket.unplaced).map fun name => (b, name)) =
      (existing.findSome? fun b => (b.sharedName? bucket).map fun name => (b, name)).map
        (Prod.map Bucket.unplaced id) := by
    rw [List.findSome?_map, List.map_findSome?]
    refine congrArg (existing.findSome? ·) (funext fun b => ?_)
    change (b.sharedName? bucket).map _ = ((b.sharedName? bucket).map _).map _
    rw [Option.map_map]
    rfl
  unfold Bucket.checkAgainst
  rw [hshared]
  cases existing.findSome? fun b => (b.sharedName? bucket).map fun name => (b, name) with
  | none => rfl
  | some clash =>
    obtain ⟨b, name⟩ := clash
    cases hrole : b.role <;> simp [Bucket.unplaced, ExpandError.at, hrole]

/-- **The buckets of roles without places are the roles' buckets without places.** -/
theorem addRoles_unplaced (suffix : String) (base : Ident) (variants : List Variant)
    (buckets : List Bucket) (roles : List Ident) :
    (addRoles suffix base.unplaced variants (buckets.map Bucket.unplaced)
        (roles.map Ident.unplaced)).unplaced id =
      (addRoles suffix base variants buckets roles).unplaced (List.map Bucket.unplaced) := by
  -- a role adds its bucket to those before it, so the buckets vary along the roles
  induction roles generalizing buckets with
  | nil =>
    rw [List.map_nil, addRoles_nil, addRoles_nil]
    rfl
  | cons role rest ih =>
    have hmembers : variants.filter (·.plays role.unplaced) = variants.filter (·.plays role) := rfl
    rw [List.map_cons, addRoles_cons, addRoles_cons, hmembers]
    split
    · exact Outcome.unplaced_bind (Outcome.unplaced_warn _ _ _) fun _ _ _ => ih buckets
    · rw [Bucket.ofRole_unplaced]
      refine Outcome.unplaced_bind (Outcome.unplaced_map_name _ _) ?_
      rintro _ bucket rfl
      refine Outcome.unplaced_bind
        (Outcome.unplaced_liftM (bucket.checkAgainst_unplaced base role buckets)) fun _ _ _ => ?_
      have hall : buckets.map Bucket.unplaced ++ [bucket.unplaced] =
          (buckets ++ [bucket]).map Bucket.unplaced := by rw [List.map_append, List.map_singleton]
      exact hall ▸ ih (buckets ++ [bucket])

/-! ## Hierarchies -/

namespace Hierarchy

/-- A hierarchy without the places of its base and its roles. -/
def unplaced (h : Hierarchy) : Hierarchy :=
  { h with base := h.base.unplaced, buckets := h.buckets.map Bucket.unplaced }

variable {h : Hierarchy}

theorem map_unplaced_typeNames (h : Hierarchy) :
    h.unplaced.typeNames.map Ident.unplaced = h.typeNames.map Ident.unplaced := by
  have hbucket (b : Bucket) :
      (b.unplaced.discriminator :: b.unplaced.role.toList).map Ident.unplaced =
        (b.discriminator :: b.role.toList).map Ident.unplaced := by
    cases hrole : b.role <;> simp [Bucket.unplaced, Ident.unplaced, hrole]
  simp only [typeNames, unplaced, List.map_cons, List.flatMap_map, List.map_flatMap, hbucket]
  rfl

theorem firstRepeated?_unplaced (seen names : List Ident) :
    firstRepeated? (seen.map Ident.unplaced) (names.map Ident.unplaced) =
      (firstRepeated? seen names).map Ident.unplaced := by
  induction names generalizing seen with
  | nil => rfl
  | cons name rest ih =>
    have hseen : (seen.map Ident.unplaced).any name.unplaced.sameName = seen.any name.sameName :=
      any_sameName_unplaced seen name
    rw [List.map_cons, firstRepeated?, firstRepeated?, hseen]
    split
    · rfl
    · exact ih (name :: seen)

theorem checkTypes_unplaced (h : Hierarchy) (items : List Item) :
    placeless id (h.unplaced.checkTypes items) = placeless id (h.checkTypes items) := by
  have hrepeated : (firstRepeated? [] h.unplaced.typeNames).map Ident.unplaced =
      (firstRepeated? [] h.typeNames).map Ident.unplaced := by
    rw [← firstRepeated?_unplaced, ← firstRepeated?_unplaced, h.map_unplaced_typeNames]
  have hany (name : Ident) :
      h.unplaced.typeNames.any name.sameName = h.typeNames.any name.sameName := by
    rw [← any_sameName_unplaced, h.map_unplaced_typeNames, any_sameName_unplaced]
  unfold checkTypes
  simp only [hany]
  obtain ⟨h₁, h₂⟩ | ⟨name₁, name₂, h₁, h₂, hname⟩ := map_eq_map_cases hrepeated
  · rw [h₁, h₂]
  · have htext : name₁.text = name₂.text := Ident.unplaced_eq_iff.1 hname
    simp only [h₁, h₂, clash, ExpandError.at, placeless_error, htext]

theorem checkMethods_unplaced (h : Hierarchy) (items : List Item) :
    h.unplaced.checkMethods items = h.checkMethods items := by
  unfold checkMethods
  simp only [unplaced, List.any_map]
  rfl

/-- A getter that hides a classifier, without the place of the role. -/
def Shadow.unplaced (s : Shadow) : Shadow := { s with role := s.role.unplaced }

theorem shadows_unplaced (h : Hierarchy) (items : List Item) :
    h.unplaced.shadows items = (h.shadows items).map Shadow.unplaced := by
  unfold shadows unplaced
  rw [List.flatMap_map, List.map_flatMap]
  refine congrArg (h.buckets.flatMap ·) (funext fun b => ?_)
  cases hrole : b.role with
  | none => simp [Bucket.unplaced, hrole]
  | some role =>
    simp only [Bucket.unplaced, hrole, Option.map_some, List.map_flatMap, List.map_map]
    rfl

/-- The warnings name a role and do not say where it was declared. -/
theorem report_shadows_unplaced (h : Hierarchy) (items : List Item) :
    (h.unplaced.shadows items).forM (fun s => Outcome.report s.warning) =
      (h.shadows items).forM fun s => Outcome.report s.warning := by
  rw [shadows_unplaced]
  induction h.shadows items with
  | nil => rfl
  | cons s rest ih => exact congrArg (Outcome.report s.warning >>= fun _ => ·) ih

/-- **The hierarchy of a base and roles without places is theirs without places.** -/
theorem build_unplaced (c : Config) (base : Ident) (roles : List Ident) (variants : List Variant)
    (items : List Item) :
    (build c base.unplaced (roles.map Ident.unplaced) variants items).unplaced id =
      (build c base roles variants items).unplaced Hierarchy.unplaced := by
  rw [build, build, (carriesOut_buildInContext _ _ _ _ _).fresh_eq,
    (carriesOut_buildInContext _ _ _ _ _).fresh_eq]
  refine Outcome.unplaced_bind_right fun discriminator => ?_
  refine Outcome.unplaced_bind_right fun classifier => ?_
  have hroles := addRoles_unplaced c.sealedSuffix base variants
    [⟨none, discriminator, classifier, variants⟩] roles
  refine Outcome.unplaced_bind hroles ?_
  rintro _ buckets rfl
  have htypes := checkTypes_unplaced ⟨base, sharedVisibility variants, variants, buckets⟩ items
  have hmethods := congrArg (placeless id)
    (checkMethods_unplaced ⟨base, sharedVisibility variants, variants, buckets⟩ items)
  have hwarn := congrArg (Outcome.unplaced id)
    (report_shadows_unplaced ⟨base, sharedVisibility variants, variants, buckets⟩ items)
  refine Outcome.unplaced_bind (Outcome.unplaced_liftM htypes) fun _ _ _ => ?_
  refine Outcome.unplaced_bind (Outcome.unplaced_liftM hmethods) fun _ _ _ => ?_
  exact Outcome.unplaced_bind hwarn fun _ _ _ => rfl

/-! ## Code -/

theorem baseTokens_unplaced (h : Hierarchy) :
    h.unplaced.baseTokens.unplaced = h.baseTokens.unplaced := by
  simp [baseTokens, unplaced]

theorem conversionTokens_unplaced (h : Hierarchy) (v : Variant) :
    (h.unplaced.conversionTokens v).unplaced = (h.conversionTokens v).unplaced := by
  simp [conversionTokens, unplaced]

theorem classifierArm_unplaced (b : Bucket) (v : Variant) :
    (classifierArm b.unplaced ⟨v, answerFor b.unplaced v⟩).unplaced =
      (classifierArm b ⟨v, answerFor b v⟩).unplaced := by
  cases hrole : b.role with
  | none => simp [classifierArm, answerFor, Bucket.unplaced, hrole]
  | some role =>
    have hplays : v.plays role.unplaced = v.plays role := rfl
    by_cases h : v.plays role = true <;>
      simp [classifierArm, answerFor, Bucket.unplaced, armTokens, hrole, hplays, h]

theorem classifierTokens_unplaced (h : Hierarchy) (b : Bucket) :
    (h.unplaced.classifierTokens b.unplaced).unplaced = (h.classifierTokens b).unplaced := by
  have hresult : classifierResult b.unplaced = classifierResult b := by
    cases hrole : b.role <;> simp [classifierResult, Bucket.unplaced, hrole] <;> rfl
  have harms : ((h.unplaced.arms b.unplaced).map (classifierArm b.unplaced)).map Tokens.unplaced =
      ((h.arms b).map (classifierArm b)).map Tokens.unplaced := by
    simp only [arms, unplaced, List.map_map]
    exact List.map_congr_left fun v _ => classifierArm_unplaced b v
  simp only [classifierTokens, hresult, eachWithComma, Tokens.unplaced_append,
    Tokens.unplaced_brace, Tokens.unplaced_separated, harms]
  rfl

theorem roleImplementation_unplaced (role : Ident) (b : Bucket) (v : Variant) :
    (Bucket.roleImplementation role.unplaced b.unplaced v).unplaced =
      (Bucket.roleImplementation role b v).unplaced := by
  simp only [Bucket.roleImplementation, Tokens.unplaced_append, Ident.unplaced_tokens_unplaced]
  rfl

theorem roleTokens_unplaced (vis : Visibility) (b : Bucket) :
    (b.unplaced.roleTokens vis).unplaced = (b.roleTokens vis).unplaced := by
  have hrole : b.unplaced.role = b.role.map Ident.unplaced := rfl
  unfold Bucket.roleTokens
  rw [hrole]
  cases b.role with
  | none => rfl
  | some role =>
    simp only [Option.map_some, Tokens.unplaced_append, Tokens.unplaced_flatMap,
      Ident.unplaced_tokens_unplaced, roleImplementation_unplaced]
    rfl

/-- **The code of a hierarchy does not depend on where its base and its roles are written.** -/
theorem tokens_unplaced (h : Hierarchy) : h.unplaced.tokens.unplaced = h.tokens.unplaced := by
  have hbuckets (print print' : Bucket → Tokens)
      (hprint : ∀ b, (print b.unplaced).unplaced = (print' b).unplaced) :
      Tokens.unplaced (h.unplaced.buckets.flatMap print) =
        Tokens.unplaced (h.buckets.flatMap print') := by
    simp only [unplaced, List.flatMap_map, Tokens.unplaced_flatMap, hprint]
  have hconversions : Tokens.unplaced (h.unplaced.variants.flatMap h.unplaced.conversionTokens) =
      Tokens.unplaced (h.variants.flatMap h.conversionTokens) := by
    simp only [Tokens.unplaced_flatMap, conversionTokens_unplaced]
    rfl
  have hdiscriminators := hbuckets (Bucket.discriminatorTokens h.vis)
    (Bucket.discriminatorTokens h.vis) fun _ => rfl
  have hclassifiers := hbuckets h.unplaced.classifierTokens h.classifierTokens
    h.classifierTokens_unplaced
  have hroles := hbuckets (Bucket.roleTokens h.vis) (Bucket.roleTokens h.vis)
    (roleTokens_unplaced h.vis)
  have hbase : h.unplaced.base.tokens.unplaced = h.base.tokens.unplaced := rfl
  have hvis : h.unplaced.vis = h.vis := rfl
  simp only [tokens, Tokens.unplaced_append, Tokens.unplaced_brace, baseTokens_unplaced, hvis,
    hconversions, hdiscriminators, hbase, hclassifiers, hroles]

end Hierarchy

/-! ## Modules -/

theorem sealItems_unplaced (c : Config) (base module : Ident) (roles : List Ident)
    (items : List Item) :
    (sealItems c base.unplaced module (roles.map Ident.unplaced) items).unplaced
        (Tokens.unplaced ∘ itemList) =
      (sealItems c base module roles items).unplaced (Tokens.unplaced ∘ itemList) := by
  rw [sealItems, sealItems, (carriesOut_sealInContext _ _ _ _ _).fresh_eq,
    (carriesOut_sealInContext _ _ _ _ _).fresh_eq, collect_unplaced]
  refine Outcome.unplaced_bind_right fun variants => ?_
  dsimp only
  split
  · rfl
  · refine Outcome.unplaced_bind (Hierarchy.build_unplaced c base roles variants _) ?_
    rintro _ h rfl
    refine Outcome.unplaced_bind (Outcome.unplaced_log _ _ _ _ _ _) fun _ _ _ =>
      Outcome.unplaced_pure ?_
    simp only [Function.comp_apply, itemList_append, itemList, Item.tokens, List.append_nil,
      Tokens.unplaced_append, Hierarchy.tokens_unplaced]

/-- **Lists that are permuted and accepted seal a module alike**: to the same tokens, or to the same
failure, and with the same reports. -/
theorem expand_of_permuted {args₁ args₂ : Tokens} (h : Permuted l₁ l₂)
    (hvalid : l₁.validate spec = .ok ()) (h₁ : ArgumentList.parse args₁ = .ok l₁)
    (h₂ : ArgumentList.parse args₂ = .ok l₂) (c : Config) (item : Tokens) :
    (expand c args₁ item).unplaced Tokens.unplaced =
      (expand c args₂ item).unplaced Tokens.unplaced := by
  have hcheck : placeless id (l₁.validate spec) = placeless id (l₂.validate spec) := by
    rw [hvalid, (h.validate_iff spec).1 hvalid]
  rw [expand, expand, (carriesOut_inContext c args₁ item).fresh_eq,
    (carriesOut_inContext c args₂ item).fresh_eq, h₁, h₂, Outcome.liftM_ok_bind,
    Outcome.liftM_ok_bind]
  refine Outcome.unplaced_bind (Outcome.unplaced_liftM hcheck) fun _ _ _ => ?_
  have hroles := declaredRoles_of_permuted h hvalid
  refine Outcome.unplaced_bind (Outcome.unplaced_liftM hroles) fun roles₁ roles₂ hroles => ?_
  refine Outcome.unplaced_bind_right fun item => ?_
  cases item with
  | mod attributes vis unsafeWord name content =>
    have hbase := baseOf_of_permuted h hvalid name
    refine Outcome.unplaced_bind (Outcome.unplaced_liftM hbase) fun base₁ base₂ hbase => ?_
    cases content with
    | none => rfl
    | some items =>
      have hseal : (sealItems c base₁ name roles₁ items).unplaced (Tokens.unplaced ∘ itemList) =
          (sealItems c base₂ name roles₂ items).unplaced (Tokens.unplaced ∘ itemList) := by
        rw [← sealItems_unplaced, hbase, hroles, sealItems_unplaced]
      refine Outcome.unplaced_bind hseal fun items₁ items₂ hitems => Outcome.unplaced_pure ?_
      have hitems : (itemList items₁).unplaced = (itemList items₂).unplaced := hitems
      simp only [Item.tokens, Tokens.unplaced_append, Tokens.unplaced_brace, hitems]
  | _ => rfl

end DeclSynth.Sealed
