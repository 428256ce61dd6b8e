import DeclSynth.Proofs.Config.Failure
import DeclSynth.Proofs.Sealed.Variants

/-!
# How an expansion runs

An `Invocation` is what `#[sealed]` reads before it seals a module: its arguments,
the module's items, the base and the declared roles. What is not read so is
refused with a failure (`exists_failure_or_invocation`), and what is read is sealed
(`Invocation.result_expand`). Only the names of a role's bucket can stop an
expansion otherwise: it panics exactly where it comes to a role with a derived name
that is none (`expand_panics_iff`).
-/

namespace DeclSynth

namespace Sealed

/-- What an expansion reads before it seals a module. -/
structure Invocation (args item : Tokens) where
  list : ArgumentList
  roles : List Ident
  attributes : List Attribute
  vis : Visibility
  unsafeWord : Bool
  name : Ident
  items : List Item
  base : Ident
  list_eq : ArgumentList.parse args = .ok list
  list_valid : list.validate spec = .ok ()
  roles_eq : declaredRoles list = .ok roles
  item_eq : Item.parse item = .ok (.mod attributes vis unsafeWord name (some items))
  base_eq : baseOf list name = .ok base

variable {c : Config} {args item : Tokens}

namespace Invocation

/-- The module with other items. -/
def withItems (m : Invocation args item) (items : List Item) : Tokens :=
  (Item.mod m.attributes m.vis m.unsafeWord m.name (some items)).tokens

/-- The items of the module, sealed. -/
def sealedItems (m : Invocation args item) (c : Config) : Outcome (List Item) :=
  sealItems c m.base m.name m.roles m.items

/-- **What is read is sealed.** -/
theorem result_expand (m : Invocation args item) (c : Config) :
    (expand c args item).result = (m.sealedItems c).result.map m.withItems := by
  rw [expand, (carriesOut_inContext c args item).fresh_eq]
  rw [Outcome.result_bind_of_ok (Outcome.result_liftM_syntax.2 m.list_eq),
    Outcome.result_bind_of_ok (Outcome.result_liftM_failure.2 m.list_valid),
    Outcome.result_bind_of_ok (Outcome.result_liftM_failure.2 m.roles_eq),
    Outcome.result_bind_of_ok (Outcome.result_liftM_syntax.2 m.item_eq)]
  dsimp only
  rw [Outcome.result_bind_of_ok (Outcome.result_liftM_failure.2 m.base_eq)]
  change (Outcome.bind (m.sealedItems c) _).result = _
  unfold Outcome.bind
  cases (m.sealedItems c).result <;> rfl

end Invocation

/-- **What is not read is refused.** -/
theorem exists_failure_or_invocation (c : Config) (args item : Tokens) :
    (∃ f, (expand c args item).result = .error (.failure f)) ∨ Nonempty (Invocation args item) := by
  rw [expand, (carriesOut_inContext c args item).fresh_eq]
  simp only [Outcome.result_bind_eq_error]
  cases hlist : ArgumentList.parse args with
  | error e => simp
  | ok list =>
    cases hvalid : list.validate spec with
    | error f => simp [hvalid]
    | ok u =>
      cases hroles : declaredRoles list with
      | error f => simp [hvalid, hroles]
      | ok roles =>
        cases hitem : Item.parse item with
        | error e => simp [hvalid, hroles]
        | ok it =>
          cases it with
          | mod attributes vis unsafeWord name content =>
            cases hbase : baseOf list name with
            | error f => simp [hvalid, hroles, hbase, Outcome.result_bind_eq_error]
            | ok base =>
              cases content with
              | none => simp [hvalid, hroles, hbase, Outcome.result_bind_eq_error]
              | some items =>
                exact .inr ⟨⟨list, roles, attributes, vis, unsafeWord, name, items, base, hlist,
                  hvalid, hroles, hitem, hbase⟩⟩
          | _ => simp [hvalid, hroles]

/-! ## Where an expansion panics -/

/-- Whether both names that a role's bucket needs are names. -/
def DerivesNames (suffix : String) (base role : Ident) : Prop :=
  Ident.isName (Naming.discriminatorName role.text base.text suffix) = true ∧
    Ident.isName (Naming.classifierName (Naming.roleStem role.text base.text)) = true

/-- **A bucket is not made where one of its names is none**, and only there. -/
theorem ofRole_eq_error_iff {suffix : String} {base role : Ident} (members : List Variant) :
    (∃ fault, Bucket.ofRole suffix base role members = .error fault) ↔
      ¬ DerivesNames suffix base role := by
  unfold Bucket.ofRole DerivesNames
  cases hd : Ident.isName (Naming.discriminatorName role.text base.text suffix) with
  | false => simp [Ident.ofText_of_not_isName hd, bind, Except.bind]
  | true =>
    cases hk : Ident.isName (Naming.classifierName (Naming.roleStem role.text base.text)) with
    | false =>
      simp [Ident.ofText_of_isName hd, Ident.ofText_of_not_isName hk, bind, Except.bind]
    | true =>
      simp [Ident.ofText_of_isName hd, Ident.ofText_of_isName hk, bind, Except.bind, pure,
        Except.pure]

section Loop

variable {suffix : String} {base role : Ident} {variants : List Variant} {roles rest : List Ident}
  {buckets all : List Bucket}

/-- Whether a variant plays a role. -/
def Played (variants : List Variant) (role : Ident) : Prop := ∃ v ∈ variants, v.plays role = true

theorem played_iff : Played variants role ↔ (variants.filter (·.plays role)).isEmpty = false := by
  rw [List.isEmpty_eq_false_iff, ne_eq, List.filter_eq_nil_iff]
  simp [Played]

/-- For a role that is played, the loop makes its bucket and checks it. -/
theorem addRoles_of_played (h : Played variants role) (rest : List Ident) :
    addRoles suffix base variants buckets (role :: rest) = (do
      let bucket ← Bucket.ofRole suffix base role (variants.filter (·.plays role))
      bucket.checkAgainst base role buckets
      addRoles suffix base variants (buckets ++ [bucket]) rest) := by
  rw [addRoles_cons, if_neg (by simp [played_iff.1 h])]

/-- Any other role is passed over. -/
theorem result_addRoles_of_not_played (h : ¬ Played variants role) (rest : List Ident) :
    (addRoles suffix base variants buckets (role :: rest)).result =
      (addRoles suffix base variants buckets rest).result := by
  rw [played_iff, Bool.not_eq_false] at h
  rw [addRoles_cons, if_pos h]
  exact Outcome.result_bind_of_ok ((Outcome.result_warn _ _ ()).2 trivial) _

theorem result_addRoles_nil : (addRoles suffix base variants buckets []).result = .ok buckets := by
  rw [addRoles_nil, Outcome.result_pure]

/-- **One role after the other.** -/
theorem addRoles_cons_ok :
    (addRoles suffix base variants buckets (role :: rest)).result = .ok all ↔
      ∃ more, (addRoles suffix base variants buckets [role]).result = .ok more ∧
        (addRoles suffix base variants more rest).result = .ok all := by
  by_cases h : Played variants role
  · simp only [addRoles_of_played h, Outcome.result_bind_eq_ok, result_addRoles_nil,
      Except.ok.injEq]
    constructor
    · rintro ⟨bucket, hbucket, ⟨⟩, hcheck, hall⟩
      exact ⟨_, ⟨bucket, hbucket, (), hcheck, rfl⟩, hall⟩
    · rintro ⟨_, ⟨bucket, hbucket, ⟨⟩, hcheck, rfl⟩, hall⟩
      exact ⟨bucket, hbucket, (), hcheck, hall⟩
  · simp [result_addRoles_of_not_played h, result_addRoles_nil]

/-- The loop panics at a role or behind it. -/
theorem addRoles_cons_panics :
    (∃ fault, (addRoles suffix base variants buckets (role :: rest)).result =
        .error (.panic fault)) ↔
      (Played variants role ∧ ¬ DerivesNames suffix base role) ∨
        ∃ more, (addRoles suffix base variants buckets [role]).result = .ok more ∧
          ∃ fault, (addRoles suffix base variants more rest).result = .error (.panic fault) := by
  by_cases h : Played variants role
  · rw [← ofRole_eq_error_iff (variants.filter (·.plays role))]
    simp only [addRoles_of_played h, Outcome.result_bind_eq_ok, Outcome.result_bind_eq_error,
      Outcome.result_liftM_name_error, Outcome.result_liftM_failure_error, result_addRoles_nil,
      Except.ok.injEq]
    constructor
    · rintro ⟨fault, ⟨fault', hfault, -⟩ | ⟨bucket, hbucket, ⟨f, -, hstop⟩ | ⟨⟨⟩, hcheck, hrest⟩⟩⟩
      · exact .inl ⟨h, fault', hfault⟩
      · cases hstop
      · exact .inr ⟨_, ⟨bucket, hbucket, (), hcheck, rfl⟩, fault, hrest⟩
    · rintro (⟨-, fault, hfault⟩ | ⟨_, ⟨bucket, hbucket, ⟨⟩, hcheck, rfl⟩, fault, hrest⟩)
      · exact ⟨fault, .inl ⟨fault, hfault, rfl⟩⟩
      · exact ⟨fault, .inr ⟨bucket, hbucket, .inr ⟨(), hcheck, hrest⟩⟩⟩
  · simp [result_addRoles_of_not_played h, result_addRoles_nil, h]

/-- **Every bucket that the loop adds is one of a role that is played.** -/
theorem mem_of_addRoles_eq_ok
    (h : (addRoles suffix base variants buckets roles).result = .ok all) {b : Bucket}
    (hb : b ∈ all) :
    b ∈ buckets ∨
      ∃ role ∈ roles, Played variants role ∧ IsBucketOf suffix base role variants b := by
  induction roles generalizing buckets with
  | nil =>
    cases h
    exact .inl hb
  | cons role rest ih =>
    obtain ⟨more, hmore, hrest⟩ := addRoles_cons_ok.1 h
    rcases ih hrest with hb | ⟨other, hother, hbucket⟩
    · by_cases hplayed : Played variants role
      · simp only [addRoles_of_played hplayed, Outcome.result_bind_eq_ok, result_addRoles_nil,
          Outcome.result_liftM_name, Except.ok.injEq] at hmore
        obtain ⟨bucket, hbucket, ⟨⟩, -, rfl⟩ := hmore
        rcases List.mem_append.1 hb with hb | hb
        · exact .inl hb
        · rw [List.mem_singleton.1 hb]
          exact .inr ⟨role, List.mem_cons_self, hplayed, ofRole_eq_ok hbucket⟩
      · rw [result_addRoles_of_not_played hplayed, result_addRoles_nil] at hmore
        cases hmore
        exact .inl hb
    · exact .inr ⟨other, List.mem_cons_of_mem _ hother, hbucket⟩

/-- The loop over the roles comes to one that a variant plays. -/
def ComesTo (suffix : String) (base : Ident) (variants : List Variant) (buckets : List Bucket)
    (roles : List Ident) (role : Ident) : Prop :=
  ∃ before after settled, roles = before ++ role :: after ∧ Played variants role ∧
    (addRoles suffix base variants buckets before).result = .ok settled

theorem comesTo_cons {other : Ident} :
    ComesTo suffix base variants buckets (role :: rest) other ↔
      (other = role ∧ Played variants role) ∨
        ∃ more, (addRoles suffix base variants buckets [role]).result = .ok more ∧
          ComesTo suffix base variants more rest other := by
  constructor
  · rintro ⟨before, after, settled, heq, hplayed, hsettled⟩
    cases before with
    | nil =>
      obtain ⟨rfl, -⟩ := List.cons.inj heq
      exact .inl ⟨rfl, hplayed⟩
    | cons first before =>
      obtain ⟨rfl, rfl⟩ := List.cons.inj heq
      obtain ⟨more, hmore, hsettled⟩ := addRoles_cons_ok.1 hsettled
      exact .inr ⟨more, hmore, before, after, settled, rfl, hplayed, hsettled⟩
  · rintro (⟨rfl, hplayed⟩ | ⟨more, hmore, before, after, settled, rfl, hplayed, hsettled⟩)
    · exact ⟨[], rest, buckets, rfl, hplayed, rfl⟩
    · exact ⟨role :: before, after, settled, rfl, hplayed,
        addRoles_cons_ok.2 ⟨more, hmore, hsettled⟩⟩

/-- **The loop over the roles panics where it comes to a role with a derived name that is none.** -/
theorem addRoles_panics_iff :
    (∃ fault, (addRoles suffix base variants buckets roles).result = .error (.panic fault)) ↔
      ∃ role, ComesTo suffix base variants buckets roles role ∧
        ¬ DerivesNames suffix base role := by
  induction roles generalizing buckets with
  | nil => simp [result_addRoles_nil, ComesTo]
  | cons role rest ih =>
    rw [addRoles_cons_panics]
    simp only [comesTo_cons]
    constructor
    · rintro (⟨hplayed, hnames⟩ | ⟨more, hmore, hfault⟩)
      · exact ⟨role, .inl ⟨rfl, hplayed⟩, hnames⟩
      · obtain ⟨other, hcomes, hnames⟩ := ih.1 hfault
        exact ⟨other, .inr ⟨more, hmore, hcomes⟩, hnames⟩
    · rintro ⟨other, ⟨rfl, hplayed⟩ | ⟨more, hmore, hcomes⟩, hnames⟩
      · exact .inl ⟨hplayed, hnames⟩
      · exact .inr ⟨more, hmore, ih.2 ⟨other, hcomes, hnames⟩⟩

end Loop

/-! ## Collecting and building -/

/-- Collecting the variants does not panic. -/
theorem ofItem?_ne_panic {declared : List Ident} {item : Item} {fault : NameFault} :
    (Variant.ofItem? declared item).result ≠ .error (.panic fault) := by
  intro h
  unfold Variant.ofItem? at h
  dsimp only at h
  split at h
  · cases h
  · simp only [Outcome.result_bind_eq_error, Outcome.result_liftM_failure_error, reduceCtorEq,
      and_false, exists_false, false_or] at h
    obtain ⟨roles, -, h⟩ := h
    split at h
    · unfold Variant.ofStruct at h
      split at h <;> simp [Outcome.result_bind_eq_error] at h
    · simp at h

theorem collect_ne_panic {declared : List Ident} {items : List Item} {fault : NameFault} :
    (Variant.collect declared items).result ≠ .error (.panic fault) := by
  induction items with
  | nil => exact nofun
  | cons item rest ih =>
    intro h
    simp only [Variant.collect, Outcome.result_bind_eq_error, ofItem?_ne_panic, ih, false_or,
      Outcome.result_pure, reduceCtorEq, and_false, exists_false] at h

theorem result_forM_report (shadows : List Hierarchy.Shadow) :
    (shadows.forM fun s => Outcome.report s.warning).result = .ok () := by
  induction shadows with
  | nil => rfl
  | cons s rest ih => exact (Outcome.result_bind_of_ok rfl _).trans ih

/-- The group of all variants, with which the loop over the roles starts. -/
def aggregate (discriminator classifier : Ident) (variants : List Variant) : List Bucket :=
  [⟨none, discriminator, classifier, variants⟩]

/-- **A hierarchy is built of buckets with free names.** -/
theorem build_eq_ok_iff {base : Ident} {roles : List Ident} {variants : List Variant}
    {items : List Item} {h : Hierarchy} :
    (Hierarchy.build c base roles variants items).result = .ok h ↔
      ∃ discriminator classifier buckets, c.discriminator = .ok discriminator ∧
        c.classifier = .ok classifier ∧
        (addRoles c.sealedSuffix base variants (aggregate discriminator classifier variants)
          roles).result = .ok buckets ∧
        h = ⟨base, sharedVisibility variants, variants, buckets⟩ ∧
        h.checkTypes items = .ok () ∧ h.checkMethods items = .ok () := by
  rw [Hierarchy.build, (Hierarchy.carriesOut_buildInContext _ _ _ _ _).fresh_eq]
  simp only [Outcome.result_bind_eq_ok, Outcome.result_liftM_failure, result_forM_report,
    Outcome.result_pure, Config.reportAt_eq_ok_iff]
  constructor
  · rintro ⟨discriminator, hdiscriminator, classifier, hclassifier, buckets, hbuckets, ⟨⟩, htypes,
      ⟨⟩, hmethods, -, -, hh⟩
    cases hh
    exact ⟨discriminator, classifier, buckets, hdiscriminator, hclassifier, hbuckets, rfl, htypes,
      hmethods⟩
  · rintro ⟨discriminator, classifier, buckets, hdiscriminator, hclassifier, hbuckets, rfl, htypes,
      hmethods⟩
    exact ⟨discriminator, hdiscriminator, classifier, hclassifier, buckets, hbuckets, (), htypes,
      (), hmethods, (), trivial, rfl⟩

/-- Types that pass the check are distinct, and no item that defines something is named like one. -/
theorem checkTypes_eq_ok {h : Hierarchy} {items : List Item}
    (hcheck : h.checkTypes items = .ok ()) :
    (h.typeNames.map (·.text)).Nodup ∧
      ∀ item ∈ items, ∀ own ∈ item.name?, ∀ name ∈ h.typeNames, name.text ≠ own.text := by
  unfold Hierarchy.checkTypes at hcheck
  split at hcheck
  · cases hcheck
  · rename_i hnone
    refine ⟨(firstRepeated?_eq_none hnone).1, ?_⟩
    split at hcheck
    · cases hcheck
    · rename_i hfree
      intro item hitem own hown name hname hsame
      refine List.find?_eq_none.1 hfree own (List.mem_filterMap.2 ⟨item, hitem, hown⟩) ?_
      exact List.any_eq_true.2 ⟨name, hname, Ident.sameName_iff.2 hsame.symm⟩

/-- Classifiers that pass the check are named like no function of the base. -/
theorem checkMethods_eq_ok {h : Hierarchy} {items : List Item}
    (hcheck : h.checkMethods items = .ok ()) :
    ∀ i ∈ Item.inherentImpls items h.base, ∀ member ∈ i.members, ∀ own ∈ member.fnName?,
      ∀ b ∈ h.buckets, b.classifier.text ≠ own.text := by
  unfold Hierarchy.checkMethods at hcheck
  dsimp only at hcheck
  split at hcheck
  · cases hcheck
  · rename_i hfree
    intro i hi member hmember own hown b hb hsame
    have hmethod : own ∈ Hierarchy.methodNames (Item.inherentImpls items h.base) :=
      List.mem_flatMap.2 ⟨i, hi, List.mem_filterMap.2 ⟨member, hmember, hown⟩⟩
    refine List.find?_eq_none.1 hfree own hmethod ?_
    exact List.any_eq_true.2 ⟨b, hb, Ident.sameName_iff.2 hsame⟩

/-- **What is built was checked.** -/
theorem build_eq_ok {base : Ident} {roles : List Ident} {variants : List Variant}
    {items : List Item} {h : Hierarchy}
    (hbuild : (Hierarchy.build c base roles variants items).result = .ok h) :
    Built c base roles variants h := by
  obtain ⟨discriminator, classifier, buckets, hdiscriminator, hclassifier, hbuckets, rfl, htypes,
    -⟩ := build_eq_ok_iff.1 hbuild
  obtain ⟨hapart, hkept, hplayed⟩ := addRoles_eq_ok hbuckets (List.pairwise_singleton _ _)
  refine ⟨rfl, rfl, ?_, hplayed, (checkTypes_eq_ok htypes).1, hapart⟩
  exact ⟨_, hkept _ List.mem_cons_self, rfl, hdiscriminator, hclassifier, rfl⟩

/-- A hierarchy panics as the loop over its roles does. -/
theorem build_panics_iff {base : Ident} {roles : List Ident} {variants : List Variant}
    {items : List Item} {fault : NameFault} :
    (Hierarchy.build c base roles variants items).result = .error (.panic fault) ↔
      ∃ discriminator classifier, c.discriminator = .ok discriminator ∧
        c.classifier = .ok classifier ∧
        (addRoles c.sealedSuffix base variants (aggregate discriminator classifier variants)
          roles).result = .error (.panic fault) := by
  rw [Hierarchy.build, (Hierarchy.carriesOut_buildInContext _ _ _ _ _).fresh_eq]
  simp only [Outcome.result_bind_eq_error, Outcome.result_liftM_failure,
    Outcome.result_liftM_failure_error, result_forM_report, Outcome.result_pure, reduceCtorEq,
    and_false, exists_false, or_false, false_or, Config.reportAt_eq_ok_iff]
  simp only [exists_and_left, aggregate]

namespace Invocation

/-- The expansion comes to a role that a variant plays: what comes before is in order. -/
def ComesTo (m : Invocation args item) (c : Config) (role : Ident) : Prop :=
  ∃ variants discriminator classifier,
    (Variant.collect m.roles m.items).result = .ok variants ∧
    c.discriminator = .ok discriminator ∧ c.classifier = .ok classifier ∧
    Sealed.ComesTo c.sealedSuffix m.base variants (aggregate discriminator classifier variants)
      m.roles role

theorem sealedItems_panics_iff (m : Invocation args item) :
    (∃ fault, (m.sealedItems c).result = .error (.panic fault)) ↔
      ∃ role, m.ComesTo c role ∧ ¬ DerivesNames c.sealedSuffix m.base role := by
  rw [sealedItems, sealItems, (carriesOut_sealInContext _ _ _ _ _).fresh_eq]
  unfold ComesTo
  simp only [Outcome.result_bind_eq_error, collect_ne_panic, false_or]
  constructor
  · rintro ⟨fault, variants, hvariants, hfault⟩
    split at hfault
    · simp [Outcome.result_bind_eq_error] at hfault
    · simp only [Outcome.result_bind_eq_error, Outcome.result_log_error, Outcome.result_pure,
        reduceCtorEq, and_false, exists_false, or_false, build_panics_iff] at hfault
      obtain ⟨discriminator, classifier, hdiscriminator, hclassifier, hloop⟩ := hfault
      obtain ⟨role, hcomes, hnames⟩ := addRoles_panics_iff.1 ⟨fault, hloop⟩
      exact ⟨role, ⟨variants, discriminator, classifier, hvariants, hdiscriminator, hclassifier,
        hcomes⟩, hnames⟩
  · rintro ⟨role, ⟨variants, discriminator, classifier, hvariants, hdiscriminator, hclassifier,
      hcomes⟩, hnames⟩
    obtain ⟨fault, hloop⟩ := addRoles_panics_iff.2 ⟨role, hcomes, hnames⟩
    refine ⟨fault, variants, hvariants, ?_⟩
    -- a variant plays the role, so there are variants
    obtain ⟨_, _, _, _, ⟨v, hv, -⟩, -⟩ := hcomes
    rw [if_neg (by simpa using List.ne_nil_of_mem hv)]
    refine Outcome.result_bind_eq_error.2 (.inl (build_panics_iff.2 ?_))
    exact ⟨discriminator, classifier, hdiscriminator, hclassifier, hloop⟩

/-- The variants that the marked structs of the module become. -/
def variants (m : Invocation args item) : List Variant := (markedStructs m.items).map variantOf

/-- The items of the module without the marks of its variants. -/
def unmarked (m : Invocation args item) : List Item := m.items.map Sealed.unmarked

/-- Before anything else, the variants are collected. -/
theorem collect_of_sealedItems_eq_ok {m : Invocation args item} {items : List Item}
    (h : (m.sealedItems c).result = .ok items) :
    (Variant.collect m.roles m.items).result = .ok m.variants := by
  rw [sealedItems, sealItems, (carriesOut_sealInContext _ _ _ _ _).fresh_eq] at h
  obtain ⟨variants, hvariants, -⟩ := Outcome.result_bind_eq_ok.1 h
  obtain ⟨rfl, -⟩ := collect_eq_ok hvariants
  exact hvariants

/-- **A module is sealed with the hierarchy of its marked structs**, if it has any. -/
theorem sealedItems_eq_ok {m : Invocation args item} {items : List Item}
    (h : (m.sealedItems c).result = .ok items) :
    (∀ s ∈ markedStructs m.items, RolesDeclared m.roles s) ∧
      (markedStructs m.items = [] → items = m.unmarked) ∧
      (markedStructs m.items ≠ [] → ∃ h : Hierarchy,
        (Hierarchy.build c m.base m.roles m.variants m.unmarked).result = .ok h ∧
        items = m.unmarked ++ [.verbatim h.tokens]) := by
  rw [sealedItems, sealItems, (carriesOut_sealInContext _ _ _ _ _).fresh_eq] at h
  simp only [Outcome.result_bind_eq_ok] at h
  obtain ⟨variants, hvariants, h⟩ := h
  obtain ⟨rfl, hdeclared⟩ := collect_eq_ok hvariants
  refine ⟨hdeclared, fun hnone => ?_, fun hmarked => ?_⟩
  · rw [if_pos (by simp [hnone])] at h
    simp only [Outcome.result_bind_eq_ok, Outcome.result_pure, Except.ok.injEq] at h
    obtain ⟨⟨⟩, -, rfl⟩ := h
    rfl
  · rw [if_neg (by simpa using hmarked)] at h
    simp only [Outcome.result_bind_eq_ok, Outcome.result_pure, Except.ok.injEq] at h
    obtain ⟨h, hbuild, ⟨⟩, -, rfl⟩ := h
    exact ⟨h, hbuild, rfl⟩

end Invocation

/-- **An expansion yields a sealed module.** -/
theorem exists_of_expand_eq_ok {out : Tokens} (h : (expand c args item).result = .ok out) :
    ∃ (m : Invocation args item) (items : List Item), (m.sealedItems c).result = .ok items ∧
      out = m.withItems items := by
  rcases exists_failure_or_invocation c args item with ⟨f, hf⟩ | ⟨⟨m⟩⟩
  · cases hf.symm.trans h
  · rw [m.result_expand] at h
    cases hitems : (m.sealedItems c).result with
    | error s =>
      rw [hitems] at h
      cases h
    | ok items =>
      rw [hitems] at h
      exact ⟨m, items, hitems, (Except.ok.inj h).symm⟩

/-- **An expansion yields a module with its hierarchy behind the items**, where a struct of the
module is marked. -/
theorem expand_eq_ok {out : Tokens} (hout : (expand c args item).result = .ok out) :
    ∃ l roles attributes vis unsafeWord name items base, ArgumentList.parse args = .ok l ∧
      declaredRoles l = .ok roles ∧
      Item.parse item = .ok (.mod attributes vis unsafeWord name (some items)) ∧
      baseOf l name = .ok base ∧
      (∀ s ∈ markedStructs items, RolesDeclared roles s) ∧
      (markedStructs items ≠ [] → ∃ h,
        Built c base roles ((markedStructs items).map variantOf) h ∧
        out = (Item.mod attributes vis unsafeWord name
          (some (items.map unmarked ++ [.verbatim h.tokens]))).tokens) := by
  obtain ⟨m, items, hitems, rfl⟩ := exists_of_expand_eq_ok hout
  obtain ⟨hdeclared, -, hsealed⟩ := Invocation.sealedItems_eq_ok hitems
  refine ⟨m.list, m.roles, m.attributes, m.vis, m.unsafeWord, m.name, m.items, m.base, m.list_eq,
    m.roles_eq, m.item_eq, m.base_eq, hdeclared, fun hmarked => ?_⟩
  obtain ⟨h, hbuild, rfl⟩ := hsealed hmarked
  exact ⟨h, build_eq_ok hbuild, rfl⟩

/-- **An expansion panics exactly where it comes to a role with a derived name that is none.** -/
theorem expand_panics_iff :
    (∃ fault, (expand c args item).result = .error (.panic fault)) ↔
      ∃ (m : Invocation args item) (role : Ident),
        m.ComesTo c role ∧ ¬ DerivesNames c.sealedSuffix m.base role := by
  have hmap : ∀ {α β : Type} (f : α → β) (x : Except Stop α) (s : Stop),
      x.map f = .error s ↔ x = .error s := by
    intro α β f x s
    cases x <;> simp [Except.map]
  constructor
  · rintro ⟨fault, hfault⟩
    rcases exists_failure_or_invocation c args item with ⟨f, hf⟩ | ⟨⟨m⟩⟩
    · cases hf.symm.trans hfault
    · rw [m.result_expand, hmap] at hfault
      exact ⟨m, m.sealedItems_panics_iff.1 ⟨fault, hfault⟩⟩
  · rintro ⟨m, hrole⟩
    obtain ⟨fault, hfault⟩ := m.sealedItems_panics_iff.2 hrole
    exact ⟨fault, by rw [m.result_expand, hmap]; exact hfault⟩

end Sealed

end DeclSynth
