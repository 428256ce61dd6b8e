import DeclSynth.Proofs.InContext.Expanders

/-!
# What a hierarchy is built of

The marked structs of a module are collected as variants: `variantOf` is the
variant that a struct becomes, and `plays_variantOf` says that it plays the roles
that its marks list. A built hierarchy has a bucket for all variants and one for
each role that is played, and the names it generates are told apart (`Built`).
-/

namespace DeclSynth.Sealed

/-! ## Marks -/

/-- The struct that an item is, if it is marked. -/
def markedStruct? : Item → Option StructItem
  | .struct s => if s.attributes.any isMark then some s else none
  | _ => none

/-- The marked structs among items. -/
def markedStructs (items : List Item) : List StructItem := items.filterMap markedStruct?

/-- The roles that a mark lists; none where it is no list of names. -/
def listed (a : Attribute) : List Ident := (Variant.listedRoles a).toOption.getD []

/-- Whether a struct lists a role in one of its marks. -/
def lists (s : StructItem) (role : String) : Bool :=
  (s.attributes.filter isMark).any fun a => (listed a).any (·.text == role)

/-- Whether a struct has a stored field: one that is not a `PhantomData`. -/
def holdsState (s : StructItem) : Bool := s.fields.toList.any (!·.ty.isPhantom)

/-- The variant that a marked struct becomes. -/
def variantOf (s : StructItem) : Variant :=
  ⟨s.name, s.vis, holdsState s, (s.attributes.filter isMark).flatMap listed⟩

/-- **A variant plays the roles that the marks of its struct list.** -/
theorem plays_variantOf (s : StructItem) (role : Ident) :
    (variantOf s).plays role = lists s role.text := by
  simp only [Variant.plays, variantOf, lists, List.any_flatMap]
  congr 1
  funext a
  congr 1
  funext r
  exact Bool.beq_comm

/-- A role that is added is declared. -/
theorem addRole_eq_ok {declared own roles : List Ident} {role : Ident}
    (h : Variant.addRole declared own role = .ok roles) :
    declared.any role.sameName = true ∧ roles = own ++ [role] := by
  unfold Variant.addRole at h
  split at h
  · cases h
  · rename_i hdeclared
    split at h
    · cases h
    · exact ⟨by simpa using hdeclared, (Except.ok.inj h).symm⟩

/-- What marks list is collected in order, and every role of it is declared. -/
theorem foldlM_addRole_eq_ok {declared : List Ident} {new own roles : List Ident}
    (h : new.foldlM (Variant.addRole declared) own = .ok roles) :
    (∀ role ∈ new, declared.any role.sameName = true) ∧ roles = own ++ new := by
  induction new generalizing own with
  | nil =>
    obtain rfl : own = roles := Except.ok.inj h
    simp
  | cons role rest ih =>
    rw [List.foldlM_cons, except_bind_eq_ok] at h
    obtain ⟨own', hrole, hrest⟩ := h
    obtain ⟨hdeclared, rfl⟩ := addRole_eq_ok hrole
    obtain ⟨hall, rfl⟩ := ih hrest
    refine ⟨fun r hr => ?_, by simp⟩
    rcases List.mem_cons.1 hr with rfl | hr
    · exact hdeclared
    · exact hall r hr

theorem foldlM_addListed_eq_ok {declared own roles : List Ident} {marks : List Attribute}
    (h : marks.foldlM (Variant.addListed declared) own = .ok roles) :
    (∀ role ∈ marks.flatMap listed, declared.any role.sameName = true) ∧
      roles = own ++ marks.flatMap listed := by
  induction marks generalizing own with
  | nil =>
    obtain rfl : own = roles := Except.ok.inj h
    simp
  | cons a rest ih =>
    rw [List.foldlM_cons, except_bind_eq_ok] at h
    obtain ⟨own', ha, hrest⟩ := h
    unfold Variant.addListed at ha
    rw [except_bind_eq_ok] at ha
    obtain ⟨new, hnew, ha⟩ := ha
    have hlisted : listed a = new := by simp [listed, hnew, Except.toOption]
    obtain ⟨hall, rfl⟩ := foldlM_addRole_eq_ok ha
    obtain ⟨hall', rfl⟩ := ih hrest
    rw [List.flatMap_cons, hlisted]
    refine ⟨fun r hr => ?_, by simp⟩
    rcases List.mem_append.1 hr with hr | hr
    · exact hall r hr
    · exact hall' r hr

/-- **The roles of a variant are those its marks list**, all of them declared. -/
theorem rolesOf_eq_ok {declared roles : List Ident} {attributes : List Attribute}
    (h : Variant.rolesOf declared attributes = .ok roles) :
    (∀ role ∈ roles, declared.any role.sameName = true) ∧
      roles = (attributes.filter isMark).flatMap listed := by
  have hmarks : (attributes.filter isMark).foldlM (Variant.addListed declared) [] = .ok roles := h
  obtain ⟨hall, rfl⟩ := foldlM_addListed_eq_ok hmarks
  exact ⟨by simpa using hall, by simp⟩

/-- All roles that a struct's marks list are declared. -/
def RolesDeclared (declared : List Ident) (s : StructItem) : Prop :=
  ∀ role ∈ (variantOf s).roles, declared.any role.sameName = true

/-- **A marked item is a struct, and becomes its variant**; any other item becomes none. -/
theorem ofItem?_eq_ok {declared : List Ident} {item : Item} {found : Option Variant}
    (h : (Variant.ofItem? declared item).result = .ok found) :
    found = (markedStruct? item).map variantOf ∧
      ∀ s ∈ markedStruct? item, RolesDeclared declared s := by
  unfold Variant.ofItem? findAttribute at h
  dsimp only at h
  split at h
  · rename_i hnone
    obtain rfl : none = found := Except.ok.inj h
    cases item with
    | struct s =>
      have hmarked : s.attributes.any isMark = false :=
        List.any_eq_false.2 fun a ha => by simpa [isMark] using List.find?_eq_none.1 hnone a ha
      simp [markedStruct?, hmarked]
    | _ => simp [markedStruct?]
  · rename_i marker hmarker
    simp only [Outcome.result_bind_eq_ok, Outcome.result_liftM_failure] at h
    obtain ⟨roles, hroles, h⟩ := h
    cases item with
    | struct s =>
      have hmarked : s.attributes.any isMark = true :=
        List.any_eq_true.2 ⟨marker, List.mem_of_find?_eq_some hmarker,
          by simpa [isMark] using List.find?_some hmarker⟩
      obtain ⟨hdeclared, rfl⟩ := rolesOf_eq_ok hroles
      simp only [Outcome.result_bind_eq_ok, Outcome.result_pure, Except.ok.injEq] at h
      obtain ⟨v, hv, rfl⟩ := h
      unfold Variant.ofStruct at hv
      split at hv
      · simp at hv
      · simp only [Outcome.result_bind_eq_ok, Outcome.result_pure, Except.ok.injEq] at hv
        obtain ⟨⟨⟩, -, rfl⟩ := hv
        simp only [markedStruct?, hmarked, ↓reduceIte, Option.map_some, Option.mem_some_iff,
          forall_eq']
        exact ⟨rfl, hdeclared⟩
    | _ => simp at h

/-- **The variants of a module are its marked structs**, in order. -/
theorem collect_eq_ok {declared : List Ident} {items : List Item} {variants : List Variant}
    (h : (Variant.collect declared items).result = .ok variants) :
    variants = (markedStructs items).map variantOf ∧
      ∀ s ∈ markedStructs items, RolesDeclared declared s := by
  induction items generalizing variants with
  | nil =>
    obtain rfl : [] = variants := Except.ok.inj h
    simp [markedStructs]
  | cons item rest ih =>
    simp only [Variant.collect, Outcome.result_bind_eq_ok, Outcome.result_pure,
      Except.ok.injEq] at h
    obtain ⟨found, hfound, others, hothers, rfl⟩ := h
    obtain ⟨rfl, hitem⟩ := ofItem?_eq_ok hfound
    obtain ⟨rfl, hrest⟩ := ih hothers
    unfold markedStructs
    rw [List.filterMap_cons]
    cases hs : markedStruct? item with
    | none => exact ⟨rfl, hrest⟩
    | some s =>
      refine ⟨rfl, fun s' hs' => ?_⟩
      rcases List.mem_cons.1 hs' with rfl | hs'
      · exact hitem _ hs
      · exact hrest s' hs'

/-! ## Buckets -/

/-- The bucket that a role gets under a base. -/
structure IsBucketOf (suffix : String) (base role : Ident) (variants : List Variant) (b : Bucket) :
    Prop where
  role_eq : b.role = some role
  discriminator_text : b.discriminator.text = Naming.discriminatorName role.text base.text suffix
  classifier_text : b.classifier.text = Naming.classifierName (Naming.roleStem role.text base.text)
  members_eq : b.members = variants.filter (·.plays role)

/-- The bucket that is made for a role is the role's bucket. -/
theorem ofRole_eq_ok {suffix : String} {base role : Ident} {variants : List Variant} {b : Bucket}
    (h : Bucket.ofRole suffix base role (variants.filter (·.plays role)) = .ok b) :
    IsBucketOf suffix base role variants b := by
  unfold Bucket.ofRole at h
  simp only [except_bind_eq_ok] at h
  obtain ⟨discriminator, hdiscriminator, classifier, hclassifier, h⟩ := h
  simp only [pure, Except.pure, Except.ok.injEq] at h
  subst h
  exact ⟨rfl, Ident.text_of_ofText hdiscriminator, Ident.text_of_ofText hclassifier, rfl⟩

/-- Two buckets generate different names. -/
def Apart (a b : Bucket) : Prop := a.classifier.text ≠ b.classifier.text

/-- A bucket that passes the check is apart from the ones before it. -/
theorem checkAgainst_eq_ok {base role : Ident} {bucket : Bucket} {existing : List Bucket}
    (h : bucket.checkAgainst base role existing = .ok ()) : ∀ b ∈ existing, Apart b bucket := by
  intro b hb hsame
  unfold Bucket.checkAgainst at h
  split at h
  · rename_i hnone
    have hb' := List.findSome?_eq_none_iff.1 hnone b hb
    rw [Option.map_eq_none_iff] at hb'
    unfold Bucket.sharedName? at hb'
    split at hb'
    · cases hb'
    · split at hb'
      · cases hb'
      · rename_i hclassifier
        exact hclassifier (Ident.sameName_iff.2 hsame)
  · cases h

/-- **Further roles add buckets behind the ones there are**: one for each role that is played, and
all classifiers stay apart. -/
theorem addRoles_eq_ok {suffix : String} {base : Ident} {variants : List Variant}
    {roles : List Ident} {buckets all : List Bucket}
    (h : (addRoles suffix base variants buckets roles).result = .ok all)
    (hapart : buckets.Pairwise Apart) :
    all.Pairwise Apart ∧ (∀ b ∈ buckets, b ∈ all) ∧
      ∀ role ∈ roles, (∃ v ∈ variants, v.plays role = true) →
        ∃ b ∈ all, IsBucketOf suffix base role variants b := by
  induction roles generalizing buckets with
  | nil =>
    obtain rfl : buckets = all := Except.ok.inj h
    exact ⟨hapart, fun b hb => hb, fun role hrole => absurd hrole List.not_mem_nil⟩
  | cons role rest ih =>
    rw [addRoles_cons] at h
    -- by whether the role is played, as the loop does
    split at h
    · rename_i hempty
      simp only [Outcome.result_bind_eq_ok, Outcome.result_warn, true_and] at h
      obtain ⟨⟨⟩, h⟩ := h
      obtain ⟨hall, hkept, hplayed⟩ := ih h hapart
      refine ⟨hall, hkept, fun role' hrole' hv => ?_⟩
      rcases List.mem_cons.1 hrole' with rfl | hrole'
      -- a role without members is passed over, and the one that is played has a member
      · obtain ⟨v, hv, hplays⟩ := hv
        have hmem : v ∈ variants.filter (·.plays role') := List.mem_filter.2 ⟨hv, hplays⟩
        rw [List.isEmpty_iff.1 hempty] at hmem
        exact absurd hmem List.not_mem_nil
      · exact hplayed role' hrole' hv
    · simp only [Outcome.result_bind_eq_ok, Outcome.result_liftM_failure,
        Outcome.result_liftM_name] at h
      obtain ⟨bucket, hbucket, ⟨⟩, hcheck, h⟩ := h
      have hmore : (buckets ++ [bucket]).Pairwise Apart := by
        refine List.pairwise_append.2 ⟨hapart, List.pairwise_singleton _ _, fun b hb b' hb' => ?_⟩
        rw [List.mem_singleton.1 hb']
        exact checkAgainst_eq_ok hcheck b hb
      obtain ⟨hall, hkept, hplayed⟩ := ih h hmore
      refine ⟨hall, fun b hb => hkept b (List.mem_append_left _ hb), fun role' hrole' hv => ?_⟩
      rcases List.mem_cons.1 hrole' with rfl | hrole'
      · exact ⟨bucket, hkept bucket (by simp), ofRole_eq_ok hbucket⟩
      · exact hplayed role' hrole' hv

/-! ## Hierarchies -/

/-- Names of which none is repeated are distinct. -/
theorem firstRepeated?_eq_none {seen names : List Ident}
    (h : Hierarchy.firstRepeated? seen names = none) :
    (names.map (·.text)).Nodup ∧ ∀ n ∈ names, ∀ s ∈ seen, s.text ≠ n.text := by
  induction names generalizing seen with
  | nil => simp
  | cons name rest ih =>
    unfold Hierarchy.firstRepeated? at h
    split at h
    · cases h
    · rename_i hnew
      obtain ⟨hrest, hseen⟩ := ih h
      have hname : ∀ s ∈ seen, s.text ≠ name.text := fun s hs hsame =>
        hnew (List.any_eq_true.2 ⟨s, hs, Ident.sameName_iff.2 hsame.symm⟩)
      refine ⟨?_, fun n hn s hs => ?_⟩
      · rw [List.map_cons, List.nodup_cons]
        refine ⟨fun hmem => ?_, hrest⟩
        obtain ⟨n, hn, hsame⟩ := List.mem_map.1 hmem
        exact hseen n hn name List.mem_cons_self hsame.symm
      · rcases List.mem_cons.1 hn with rfl | hn
        · exact hname s hs
        · exact hseen n hn s (List.mem_cons_of_mem _ hs)

/-- **A hierarchy that was built**: of its variants, with a bucket for all of them and one for each
role that is played, and with names that are told apart. -/
structure Built (c : Config) (base : Ident) (roles : List Ident) (variants : List Variant)
    (h : Hierarchy) : Prop where
  base_eq : h.base = base
  variants_eq : h.variants = variants
  aggregate : ∃ b ∈ h.buckets, b.role = none ∧ c.discriminator = .ok b.discriminator ∧
    c.classifier = .ok b.classifier ∧ b.members = variants
  played : ∀ role ∈ roles, (∃ v ∈ variants, v.plays role = true) →
    ∃ b ∈ h.buckets, IsBucketOf c.sealedSuffix base role variants b
  types_nodup : (h.typeNames.map (·.text)).Nodup
  classifiers_apart : h.buckets.Pairwise Apart

end DeclSynth.Sealed
