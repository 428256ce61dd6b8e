import DeclSynth.Proofs.Lookup
import DeclSynth.Proofs.Sealed.ReadBack
import DeclSynth.Proofs.Sealed.Invocation
import Mathlib.Data.List.Nodup
import Mathlib.Data.List.Basic

/-!
# Generated classifiers

What the code of a built hierarchy computes. Its names are told apart, so each
enum, trait and method that is asked for is found exactly once, and the tables
of the base, the traits of the roles and the discriminators agree:
`Classified` says how, and `expand_classified` that every expansion of a module
with marked structs yields such code.
-/

namespace DeclSynth.Sealed

open Code

/-! ## The only match -/

section Only

variable {α β : Type} {l : List α} {a : α}

/-- Where only one element of a list contributes, the whole is its contribution. -/
theorem flatMap_eq_of_pairwise {R : α → α → Prop} {f : α → List β} (h : l.Pairwise R) (ha : a ∈ l)
    (hbefore : ∀ b, R b a → f b = []) (hafter : ∀ b, R a b → f b = []) : l.flatMap f = f a := by
  obtain ⟨before, after, rfl⟩ := List.append_of_mem ha
  obtain ⟨-, hpairs, hcross⟩ := List.pairwise_append.1 h
  have hleft : before.flatMap f = [] := List.flatMap_eq_nil_iff.2 fun b hb =>
    hbefore b (hcross b hb a List.mem_cons_self)
  have hright : after.flatMap f = [] := List.flatMap_eq_nil_iff.2 fun b hb =>
    hafter b ((List.pairwise_cons.1 hpairs).1 b hb)
  rw [List.flatMap_append, List.flatMap_cons, hleft, hright]
  simp

end Only

/-! ## Looking declarations up -/

/-- What a bucket contributes if its role has a name. -/
def Bucket.ifRole {α : Type} (name : String) (f : Bucket → List α) (b : Bucket) : List α :=
  match b.role with
  | none => []
  | some role => if role.text = name then f b else []

section Lookup

variable (h : Hierarchy)

/-- What declarations contribute, part by part, where conversions contribute nothing. -/
theorem flatMap_declarations {α : Type} (f : Declaration → List α)
    (hconversion : ∀ source target, f (.conversion source target) = []) :
    h.declarations.flatMap f =
      f (.enum h.vis.tokens h.base.text false (h.variants.map Variant.baseCase)) ++
        h.buckets.flatMap (fun b => (b.discriminatorDeclarations h.vis).flatMap f) ++
        f (.methods h.base.text (h.buckets.map h.classifierMethod)) ++
        h.buckets.flatMap (fun b => (b.roleDeclarations h.vis).flatMap f) := by
  have hconversions : (h.variants.map fun v =>
      Declaration.conversion v.name.text h.base.text).flatMap f = [] :=
    List.flatMap_eq_nil_iff.2 fun d hd => by
      obtain ⟨v, -, rfl⟩ := List.mem_map.1 hd
      exact hconversion _ _
  unfold Hierarchy.declarations
  rw [List.flatMap_append, List.flatMap_append, List.flatMap_append, List.flatMap_append,
    hconversions, List.flatMap_assoc, List.flatMap_assoc]
  simp

/-- The enums of a hierarchy are its base and its discriminators. -/
theorem enums_declarations (name : String) :
    enums h.declarations name =
      (if h.base.text = name then [h.variants.map Variant.baseCase] else []) ++
        h.buckets.flatMap fun b => if b.discriminator.text = name then
          [b.members.map Variant.discriminatorCase] else [] := by
  have hroles : (h.buckets.flatMap fun b =>
      (b.roleDeclarations h.vis).flatMap (·.casesOf name)) = [] := by
    refine List.flatMap_eq_nil_iff.2 fun b _ => ?_
    unfold Bucket.roleDeclarations
    cases b.role <;> simp [Declaration.casesOf]
  unfold enums
  rw [flatMap_declarations h _ fun _ _ => rfl, hroles]
  simp [Bucket.discriminatorDeclarations, Declaration.casesOf]

/-- The methods of the base are its classifiers. -/
theorem methodsOf_declarations :
    methodsOf h.declarations h.base.text = h.buckets.map h.classifierMethod := by
  have hroles : (h.buckets.flatMap fun b =>
      (b.roleDeclarations h.vis).flatMap (·.methodsFor h.base.text)) = [] := by
    refine List.flatMap_eq_nil_iff.2 fun b _ => ?_
    unfold Bucket.roleDeclarations
    cases b.role <;> simp [Declaration.methodsFor]
  unfold methodsOf
  rw [flatMap_declarations h _ fun _ _ => rfl, hroles]
  simp [Bucket.discriminatorDeclarations, Declaration.methodsFor]

/-- The traits of a hierarchy are its roles. -/
theorem traits_declarations (name : String) :
    traits h.declarations name = h.buckets.flatMap
      (Bucket.ifRole name fun b => [(b.classifier.text, b.discriminator.text)]) := by
  have hdiscriminators : (h.buckets.flatMap fun b =>
      (b.discriminatorDeclarations h.vis).flatMap (·.signatureOf name)) = [] :=
    List.flatMap_eq_nil_iff.2 fun b _ => rfl
  unfold traits
  rw [flatMap_declarations h _ fun _ _ => rfl, hdiscriminators]
  change h.buckets.flatMap (fun b => (b.roleDeclarations h.vis).flatMap (·.signatureOf name)) = _
  congr 1
  funext b
  unfold Bucket.roleDeclarations Bucket.ifRole
  cases b.role with
  | none => rfl
  | some role =>
    simp only [List.flatMap_cons, Declaration.signatureOf, List.flatMap_map]
    simp [Bucket.required, Bucket.use]

/-- A role is implemented by the members of its bucket. -/
theorem implementations_declarations (name : String) :
    implementations h.declarations name = h.buckets.flatMap
      (Bucket.ifRole name fun b => b.members.map fun v => (v.name.text, [b.roleMethod v])) := by
  have hdiscriminators : (h.buckets.flatMap fun b =>
      (b.discriminatorDeclarations h.vis).flatMap (·.implementationOf name)) = [] :=
    List.flatMap_eq_nil_iff.2 fun b _ => rfl
  unfold implementations
  rw [flatMap_declarations h _ fun _ _ => rfl, hdiscriminators]
  change h.buckets.flatMap (fun b =>
    (b.roleDeclarations h.vis).flatMap (·.implementationOf name)) = _
  congr 1
  funext b
  unfold Bucket.roleDeclarations Bucket.ifRole
  cases b.role with
  | none => rfl
  | some role =>
    simp only [List.flatMap_cons, Declaration.implementationOf, List.nil_append, List.flatMap_map]
    split
    · rw [List.map_eq_flatMap]
    · simp

end Lookup

/-! ## Distinct names -/

/-- The names of a hierarchy are told apart: of its types, of its classifiers and of its
variants. -/
structure Hierarchy.Distinct (h : Hierarchy) : Prop where
  types : (h.typeNames.map (·.text)).Nodup
  classifiers : h.buckets.Pairwise Apart
  variants : (h.variants.map (·.name.text)).Nodup

/-- Two buckets generate different types. -/
def TypesApart (a b : Bucket) : Prop :=
  a.discriminator.text ≠ b.discriminator.text ∧
    ∀ r ∈ a.role, ∀ r' ∈ b.role, r.text ≠ r'.text

section Distinct

variable {h : Hierarchy} {b : Bucket} {role : Ident} {v : Variant}

/-- The base and the buckets generate different types. -/
theorem Hierarchy.Distinct.types_apart (hd : h.Distinct) :
    (∀ b ∈ h.buckets, h.base.text ≠ b.discriminator.text) ∧ h.buckets.Pairwise TypesApart := by
  have htypes := hd.types
  rw [typeNames, List.map_cons, List.nodup_cons, List.map_flatMap, List.nodup_flatMap] at htypes
  obtain ⟨hbase, -, hpairs⟩ := htypes
  refine ⟨fun b hb hsame => hbase ?_, hpairs.imp fun {a b} hdisjoint => ⟨fun hsame => ?_, ?_⟩⟩
  · rw [hsame]
    exact List.mem_flatMap.2 ⟨b, hb, by simp⟩
  · refine hdisjoint (a := a.discriminator.text) (by simp) ?_
    simp [hsame]
  · intro r hr r' hr' hsame
    refine hdisjoint (a := r.text) ?_ ?_
    · simp [Option.mem_def.1 hr]
    · simp [Option.mem_def.1 hr', hsame]

/-- The base is one enum. -/
theorem enums_base (hd : h.Distinct) :
    enums h.declarations h.base.text = [h.variants.map Variant.baseCase] := by
  have hnone : (h.buckets.flatMap fun b => if b.discriminator.text = h.base.text then
      [b.members.map Variant.discriminatorCase] else []) = [] :=
    List.flatMap_eq_nil_iff.2 fun b hb => if_neg (hd.types_apart.1 b hb).symm
  rw [enums_declarations, hnone, if_pos rfl, List.append_nil]

/-- A discriminator is one enum. -/
theorem enums_discriminator (hd : h.Distinct) (hb : b ∈ h.buckets) :
    enums h.declarations b.discriminator.text = [b.members.map Variant.discriminatorCase] := by
  rw [enums_declarations, if_neg (hd.types_apart.1 b hb), List.nil_append,
    flatMap_eq_of_pairwise hd.types_apart.2 hb (fun b' h' => if_neg h'.1)
      fun b' h' => if_neg (Ne.symm h'.1), if_pos rfl]

/-- A classifier of the base is one `match`. -/
theorem rows?_classifier (hd : h.Distinct) (hb : b ∈ h.buckets) :
    rows? h.declarations h.base.text b.classifier.text = some ((h.arms b).map b.row) := by
  have hnodup : ((h.buckets.map h.classifierMethod).map (·.name)).Nodup := by
    rw [List.map_map]
    exact List.pairwise_map.2 hd.classifiers
  have honly : bodies (h.buckets.map h.classifierMethod) b.classifier.text =
      [.matches ((h.arms b).map b.row)] := by
    have := filter_key hnodup (List.mem_map_of_mem hb)
    unfold bodies
    exact congrArg (List.map Method.body) this
  rw [rows?, methodsOf_declarations, honly]

/-- Only one bucket has a role of some name. -/
theorem flatMap_ifRole {α : Type} (hd : h.Distinct) (hb : b ∈ h.buckets)
    (hrole : b.role = some role) (f : Bucket → List α) :
    h.buckets.flatMap (Bucket.ifRole role.text f) = f b := by
  have hother : ∀ b' : Bucket, (∀ r ∈ b'.role, r.text ≠ role.text) →
      Bucket.ifRole role.text f b' = [] := by
    intro b' hne
    unfold Bucket.ifRole
    cases hb' : b'.role with
    | none => rfl
    | some r => exact if_neg (hne r hb')
  rw [flatMap_eq_of_pairwise hd.types_apart.2 hb
    (fun b' hapart => hother b' fun r hr => hapart.2 r hr role hrole)
    fun b' hapart => hother b' fun r hr => (hapart.2 role hrole r hr).symm]
  unfold Bucket.ifRole
  rw [hrole]
  exact if_pos rfl

/-- A role is one trait, with the role's classifier. -/
theorem traits_role (hd : h.Distinct) (hb : b ∈ h.buckets) (hrole : b.role = some role) :
    traits h.declarations role.text = [(b.classifier.text, b.discriminator.text)] := by
  rw [traits_declarations, flatMap_ifRole hd hb hrole]

/-- **A role is implemented by its members**, once each. -/
theorem implementations_role (hd : h.Distinct) (hb : b ∈ h.buckets) (hrole : b.role = some role) :
    implementations h.declarations role.text =
      b.members.map fun v => (v.name.text, [b.roleMethod v]) := by
  rw [implementations_declarations, flatMap_ifRole hd hb hrole]

/-! ## What the code returns -/

/-- The case of a discriminator that belongs to a variant, with a reference where it declares
one. -/
def Bucket.valueOf (b : Bucket) (v : Variant) : Value :=
  .case b.discriminator.text v.name.text v.hasPayload

/-- An expression for a bound variable yields the variant's own case. -/
theorem caseOf_expression (argument : String) (v : Variant) :
    caseOf (some argument) (b.expression argument v) = some (b.valueOf v) := by
  unfold Bucket.expression Bucket.valueOf
  cases v.hasPayload <;> simp [caseOf]

/-- **A role's trait returns a member's own case.** -/
theorem traitCall_role (hd : h.Distinct) (hb : b ∈ h.buckets) (hrole : b.role = some role)
    (hmembers : (b.members.map (·.name.text)).Nodup) (hv : v ∈ b.members) :
    traitCall h.declarations role.text b.classifier.text v.name.text = some (b.valueOf v) := by
  have hnodup : ((b.members.map fun v => (v.name.text, [b.roleMethod v])).map (·.1)).Nodup := by
    rw [List.map_map]
    exact hmembers
  have honly := filter_key hnodup (List.mem_map_of_mem hv)
  unfold traitCall
  rw [implementations_role hd hb hrole, honly]
  have hbody : bodies [b.roleMethod v] b.classifier.text = [.yields (b.expression "self" v)] := by
    simp [bodies, Bucket.roleMethod, Bucket.required]
  simp only [hbody]
  exact caseOf_expression "self" v

/-- The arm of the base's classifier that is for a variant. -/
theorem find?_row (hd : h.Distinct) (hv : v ∈ h.variants) :
    ((h.arms b).map b.row).find? (·.fits v.name.text) =
      some (b.row ⟨v, Hierarchy.answerFor b v⟩) := by
  -- every arm names its variant, whatever it yields
  have hfits : ∀ v' : Variant, (b.row ⟨v', Hierarchy.answerFor b v'⟩).fits v.name.text =
      (v'.name.text == v.name.text) := by
    intro v'
    unfold Bucket.row
    cases Hierarchy.answerFor b v' <;> rfl
  rw [Hierarchy.arms, List.map_map, List.find?_map]
  have hpred : ((·.fits v.name.text) ∘ (b.row ∘ fun v => ⟨v, Hierarchy.answerFor b v⟩)) =
      fun v' : Variant => v'.name.text == v.name.text := funext hfits
  rw [hpred, find?_key hd.variants hv]
  rfl

/-- **A classifier of the base returns what its arm for a case yields.** -/
theorem classify_eq (hd : h.Distinct) (hb : b ∈ h.buckets) (hv : v ∈ h.variants) :
    classify h.declarations h.base.text b.classifier.text v.name.text =
      match b.role with
      | none => some (b.valueOf v)
      | some role =>
        if v.plays role then
          (traitCall h.declarations role.text b.classifier.text v.name.text).map .some
        else some .none := by
  have htype : typeOf? (h.variants.map Variant.baseCase) v.name.text = some v.name.text := by
    have hfind : (h.variants.map Variant.baseCase).find? (·.name == v.name.text) =
        some v.baseCase := by
      have hnodup : ((h.variants.map Variant.baseCase).map (·.name)).Nodup := by
        rw [List.map_map]
        exact hd.variants
      exact find?_key hnodup (List.mem_map_of_mem hv)
    rw [typeOf?, hfind]
    rfl
  unfold classify
  rw [enums_base hd]
  simp only [htype, rows?_classifier hd hb, find?_row hd hv, Option.bind_eq_bind,
    Option.bind_some]
  -- by the arm that `answerFor` gives the variant: its own case, the role's answer, or nothing
  unfold Bucket.row Hierarchy.answerFor
  cases b.role with
  | none =>
    unfold Bucket.expression Bucket.valueOf
    cases v.hasPayload <;> simp [valueOf, caseOf]
  | some role =>
    by_cases hplays : v.plays role = true <;> simp [hplays, valueOf]

end Distinct

/-! ## What is owed to the marked structs -/

/-- A struct's own case of a discriminator, with a reference where the struct holds state. -/
def ownCase (discriminator : String) (s : StructItem) : Value :=
  .case discriminator s.name.text (holdsState s)

/-- The cases that a discriminator declares: one for each struct, with a reference to it where it
holds state. -/
def declaredCases (structs : List StructItem) : List Case :=
  structs.map fun s =>
    ⟨s.name.text, if holdsState s then .borrowed s.name.text else .nothing⟩

/-- A method of the base is a `match` with one arm for each struct, in order, and no wildcard. -/
def OneArmEach (code : List Declaration) (base method : String) (structs : List StructItem) :
    Prop :=
  ∃ rows, rows? code base method = some rows ∧
    rows.map (·.case?) = structs.map fun s => some s.name.text

/-- The base tells all structs apart: it sends each case to the struct's own case of the
discriminator. -/
structure TellsApart (code : List Declaration) (base discriminator classifier : String)
    (structs : List StructItem) : Prop where
  cases : enums code discriminator = [declaredCases structs]
  arms : OneArmEach code base classifier structs
  returns : ∀ s ∈ structs,
    classify code base classifier s.name.text = some (ownCase discriminator s)

/-- The base tells the structs that list a role from the others: the role's trait is implemented by
them, once each and with each one's own case, and the base returns what the trait does. -/
structure TellsRole (code : List Declaration) (base role discriminator classifier : String)
    (structs : List StructItem) : Prop where
  cases : enums code discriminator = [declaredCases (structs.filter (lists · role))]
  trait : traits code role = [(classifier, discriminator)]
  implementors : (implementations code role).map (·.1) =
    (structs.filter (lists · role)).map (·.name.text)
  implemented : ∀ s ∈ structs, lists s role = true →
    traitCall code role classifier s.name.text = some (ownCase discriminator s)
  arms : OneArmEach code base classifier structs
  returns : ∀ s ∈ structs, classify code base classifier s.name.text =
    if lists s role then (traitCall code role classifier s.name.text).map .some else some .none

/-- **What generated code owes to the marked structs**: a base with a case for each of them, which
tells all of them apart, and by every role that is listed. -/
structure Classified (c : Config) (base : String) (structs : List StructItem)
    (code : List Declaration) : Prop where
  base_cases : enums code base = [structs.map fun s => ⟨s.name.text, .owned s.name.text⟩]
  all : ∃ discriminator classifier, c.discriminator = .ok discriminator ∧
    c.classifier = .ok classifier ∧
    TellsApart code base discriminator.text classifier.text structs
  roles : ∀ role, (∃ s ∈ structs, lists s role = true) →
    TellsRole code base role (Naming.discriminatorName role base c.sealedSuffix)
      (Naming.classifierName (Naming.roleStem role base)) structs

section Built

variable {c : Config} {base : Ident} {roles : List Ident} {structs : List StructItem}
variable {h : Hierarchy} {b : Bucket}

/-- A built hierarchy tells its names apart, where the structs have different ones. -/
theorem Built.distinct (hb : Built c base roles (structs.map variantOf) h)
    (hnodup : (structs.map (·.name.text)).Nodup) : h.Distinct := by
  refine ⟨hb.types_nodup, hb.classifiers_apart, ?_⟩
  rw [hb.variants_eq, List.map_map]
  exact hnodup

/-- A bucket's classifier has one arm for each variant. -/
theorem oneArmEach_classifier (hd : h.Distinct) (hb : b ∈ h.buckets)
    (hvariants : h.variants = structs.map variantOf) :
    OneArmEach h.declarations h.base.text b.classifier.text structs := by
  refine ⟨_, rows?_classifier hd hb, ?_⟩
  have hcase : ∀ v : Variant, (b.row ⟨v, Hierarchy.answerFor b v⟩).case? = some v.name.text := by
    intro v
    unfold Bucket.row
    cases Hierarchy.answerFor b v <;> rfl
  rw [Hierarchy.arms, hvariants, List.map_map, List.map_map, List.map_map]
  exact List.map_congr_left fun s _ => hcase (variantOf s)

/-- The bucket of all variants settles what is owed to all of them. -/
theorem Built.tellsApart (hbuilt : Built c base roles (structs.map variantOf) h) (hd : h.Distinct)
    (hb : b ∈ h.buckets) (hrole : b.role = none) (hmembers : b.members = structs.map variantOf) :
    TellsApart h.declarations h.base.text b.discriminator.text b.classifier.text structs := by
  refine ⟨?_, oneArmEach_classifier hd hb hbuilt.variants_eq, fun s hs => ?_⟩
  · rw [enums_discriminator hd hb, hmembers, List.map_map]
    rfl
  · have hv : variantOf s ∈ h.variants := by
      rw [hbuilt.variants_eq]
      exact List.mem_map_of_mem hs
    have hclassify := classify_eq hd hb hv
    rw [hrole] at hclassify
    exact hclassify

/-- The bucket of a role settles what is owed to the structs that list it. -/
theorem Built.tellsRole (hbuilt : Built c base roles (structs.map variantOf) h) (hd : h.Distinct)
    (hb : b ∈ h.buckets) {role : Ident}
    (hbucket : IsBucketOf c.sealedSuffix base role (structs.map variantOf) b) :
    TellsRole h.declarations h.base.text role.text b.discriminator.text b.classifier.text
      structs := by
  have hmembers : b.members = (structs.filter (lists · role.text)).map variantOf := by
    rw [hbucket.members_eq, List.filter_map]
    congr 1
    exact List.filter_congr fun s _ => plays_variantOf s role
  -- members keep the order of the variants, and with it their distinct names
  have hnodup : (b.members.map (·.name.text)).Nodup := by
    have hsub : b.members.Sublist h.variants := by
      rw [hbuilt.variants_eq, hbucket.members_eq]
      exact List.filter_sublist
    exact (hsub.map _).nodup hd.variants
  refine ⟨?_, traits_role hd hb hbucket.role_eq, ?_, fun s hs hlists => ?_,
    oneArmEach_classifier hd hb hbuilt.variants_eq, fun s hs => ?_⟩
  · rw [enums_discriminator hd hb, hmembers, List.map_map]
    rfl
  · rw [implementations_role hd hb hbucket.role_eq, hmembers, List.map_map, List.map_map]
    rfl
  · refine traitCall_role hd hb hbucket.role_eq hnodup (v := variantOf s) ?_
    rw [hmembers]
    exact List.mem_map_of_mem (List.mem_filter.2 ⟨hs, hlists⟩)
  · have hv : variantOf s ∈ h.variants := by
      rw [hbuilt.variants_eq]
      exact List.mem_map_of_mem hs
    have hclassify := classify_eq hd hb hv
    rw [hbucket.role_eq] at hclassify
    simp only [plays_variantOf] at hclassify
    exact hclassify

/-- **A built hierarchy settles what is owed** to the structs that it was built of. -/
theorem Built.classified (hbuilt : Built c base roles (structs.map variantOf) h)
    (hnodup : (structs.map (·.name.text)).Nodup)
    (hdeclared : ∀ s ∈ structs, RolesDeclared roles s) :
    Classified c base.text structs h.declarations := by
  have hd := hbuilt.distinct hnodup
  obtain rfl := hbuilt.base_eq
  refine ⟨?_, ?_, fun role ⟨s, hs, hlists⟩ => ?_⟩
  · rw [enums_base hd, hbuilt.variants_eq, List.map_map]
    rfl
  · obtain ⟨b, hb, hrole, hdiscriminator, hclassifier, hmembers⟩ := hbuilt.aggregate
    exact ⟨_, _, hdiscriminator, hclassifier, hbuilt.tellsApart hd hb hrole hmembers⟩
  · -- a listed role is declared, and the declared one of its name has a bucket
    obtain ⟨a, ha, hlisted⟩ := List.any_eq_true.1 hlists
    obtain ⟨r, hr, hname⟩ := List.any_eq_true.1 hlisted
    obtain ⟨role', hrole', hsame⟩ :=
      List.any_eq_true.1 (hdeclared s hs r (List.mem_flatMap.2 ⟨a, ha, hr⟩))
    have htext : role'.text = role := by
      have hlistedName : r.text = role := by simpa using hname
      rw [← Ident.sameName_iff.1 hsame, hlistedName]
    subst htext
    have hplays : (variantOf s).plays role' = true := by rw [plays_variantOf]; exact hlists
    obtain ⟨b, hb, hbucket⟩ := hbuilt.played role' hrole' ⟨_, List.mem_map_of_mem hs, hplays⟩
    rw [← hbucket.discriminator_text, ← hbucket.classifier_text]
    exact hbuilt.tellsRole hd hb hbucket

end Built

/-- **Sealed modules are classified.** A module with marked structs of distinct names comes out
with code behind its items that reads as a base, its discriminators and its roles, and what the
classifiers of the base return is what the marks say. -/
theorem expand_classified {c : Config} {args item out : Tokens}
    (hout : (expand c args item).result = .ok out) :
    ∃ l attributes vis unsafeWord name items base, ArgumentList.parse args = .ok l ∧
      Item.parse item = .ok (.mod attributes vis unsafeWord name (some items)) ∧
      baseOf l name = .ok base ∧
      (markedStructs items ≠ [] → ((markedStructs items).map (·.name.text)).Nodup →
        ∃ generated code,
          out = (Item.mod attributes vis unsafeWord name
            (some (items.map unmarked ++ [.verbatim generated]))).tokens ∧
          read generated = some code ∧ Classified c base.text (markedStructs items) code) := by
  obtain ⟨l, roles, attributes, vis, unsafeWord, name, items, base, hl, -, hitem, hbase, hdeclared,
    hsealed⟩ := expand_eq_ok hout
  refine ⟨l, attributes, vis, unsafeWord, name, items, base, hl, hitem, hbase,
    fun hmarked hnodup => ?_⟩
  obtain ⟨h, hbuilt, hout⟩ := hsealed hmarked
  exact ⟨h.tokens, h.declarations, hout, read_tokens h, hbuilt.classified hnodup hdeclared⟩

/-- `mod shape { #[variant(Round)] struct Circle(u8); #[variant] struct Blank; }` -/
def shapeSample : Tokens :=
  kw "mod" ++ kw "shape" ++ brace (
    op "#" ++ bracket (kw "variant" ++ paren (kw "Round")) ++
      kw "struct" ++ kw "Circle" ++ paren (kw "u8") ++ op ";" ++
    op "#" ++ bracket (kw "variant") ++ kw "struct" ++ kw "Blank" ++ op ";")

/-- `roles = [Round]` -/
def shapeRoles : Tokens := kw "roles" ++ op "=" ++ bracket (kw "Round")

/-- Whether an item is a module with marked structs, of distinct names. -/
def hasVariants : Item → Bool
  | .mod _ _ _ _ (some items) => !(markedStructs items).isEmpty &&
      decide ((markedStructs items).map (·.name.text)).Nodup
  | _ => false

/-- A module with a struct that plays a role and one that plays none is classified. -/
theorem expand_classified_shape : ∃ out,
    (expand .default shapeRoles shapeSample).result = .ok out ∧
    ∃ attributes vis unsafeWord name items base generated code,
      Item.parse shapeSample = .ok (.mod attributes vis unsafeWord name (some items)) ∧
      markedStructs items ≠ [] ∧
      out = (Item.mod attributes vis unsafeWord name
        (some (items.map unmarked ++ [.verbatim generated]))).tokens ∧
      read generated = some code ∧ Classified .default base (markedStructs items) code := by
  obtain ⟨out, hout⟩ := exists_eq_ok_of_isOk
    (x := (expand .default shapeRoles shapeSample).result) (by decide +kernel)
  obtain ⟨l, attributes, vis, unsafeWord, name, items, base, -, hitem, -, hclassified⟩ :=
    expand_classified hout
  have hmarked : (Item.parse shapeSample).toOption.any hasVariants = true := by decide +kernel
  rw [hitem] at hmarked
  simp only [Except.toOption, Option.any_some, hasVariants, Bool.and_eq_true, Bool.not_eq_true',
    List.isEmpty_eq_false_iff, decide_eq_true_eq] at hmarked
  obtain ⟨generated, code, hcode⟩ := hclassified hmarked.1 hmarked.2
  exact ⟨out, hout, attributes, vis, unsafeWord, name, items, base.text, generated, code, hitem,
    hmarked.1, hcode⟩

end DeclSynth.Sealed
