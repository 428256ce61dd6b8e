import DeclSynth.Proofs.Sealed.Buckets
import DeclSynth.Proofs.Sealed.Names

/-!
# When a hierarchy is built

A `Label` is what a bucket is called, and `labels` lists what the buckets of a hierarchy would
be called: the one of all variants, and one for each role that is played, in the order of the
roles. These names are `Available` if none of them is taken, and otherwise the hierarchy is
`Refused` for the first one that is. The loop over the roles keeps the labels before it apart and
stops at the first that is not (`addRoles_verdict`), and a hierarchy is built exactly where its
names are available (`build_verdict`).
-/

namespace DeclSynth.Sealed

/-! ## Labels -/

/-- What a bucket is called: by its role, if it has one, by its discriminator and by its
classifier. -/
structure Label where
  role : Option String
  discriminator : String
  classifier : String
deriving DecidableEq, Repr

/-- What a bucket is called. -/
def Bucket.label (b : Bucket) : Label :=
  ⟨b.role.map (·.text), b.discriminator.text, b.classifier.text⟩

namespace Label

/-- What the bucket of a role is called under a base. -/
def ofRole (suffix : String) (base role : Ident) : Label :=
  ⟨some role.text, Naming.discriminatorName role.text base.text suffix,
    Naming.classifierName (Naming.roleStem role.text base.text)⟩

/-- The types that a bucket adds to the module. -/
def types (l : Label) : List String := l.discriminator :: l.role.toList

/-- Two buckets have no name in common. -/
structure Apart (a b : Label) : Prop where
  discriminator : a.discriminator ≠ b.discriminator
  classifier : a.classifier ≠ b.classifier

/-- The name that two buckets have in common, if any: of their discriminators, or else of their
classifiers. -/
def shared? (a b : Label) : Option String :=
  if a.discriminator = b.discriminator then some b.discriminator
  else if a.classifier = b.classifier then some b.classifier
  else none

theorem shared?_eq_none_iff {a b : Label} : a.shared? b = none ↔ a.Apart b := by
  unfold shared?
  constructor
  · intro h
    split at h
    · cases h
    · rename_i hdiscriminator
      split at h
      · cases h
      · rename_i hclassifier
        exact ⟨hdiscriminator, hclassifier⟩
  · rintro ⟨hdiscriminator, hclassifier⟩
    rw [if_neg hdiscriminator, if_neg hclassifier]

/-- Labels are pairwise apart exactly if discriminators are distinct and classifiers are. -/
theorem pairwise_apart_iff {ls : List Label} :
    ls.Pairwise Apart ↔ (ls.map (·.discriminator)).Nodup ∧ (ls.map (·.classifier)).Nodup := by
  have hpairs : ls.Pairwise Apart ↔ ls.Pairwise fun a b =>
      a.discriminator ≠ b.discriminator ∧ a.classifier ≠ b.classifier := by
    refine ⟨fun h => h.imp fun hab => ⟨hab.discriminator, hab.classifier⟩, fun h => ?_⟩
    exact h.imp fun hab => ⟨hab.1, hab.2⟩
  rw [hpairs, List.pairwise_and_iff, List.nodup_iff_pairwise_ne, List.nodup_iff_pairwise_ne,
    List.pairwise_map, List.pairwise_map]

end Label

/-- What the buckets of a hierarchy are called: the one of all variants, and those of the roles
that are played. -/
def labels (suffix : String) (discriminator classifier base : Ident) (variants : List Variant)
    (roles : List Ident) : List Label :=
  ⟨none, discriminator.text, classifier.text⟩ ::
    (roles.filter (isPlayed variants)).map (Label.ofRole suffix base)

/-- The types that are added to the module: the base and those of the buckets. -/
def typesUnder (base : Ident) (ls : List Label) : List String := base.text :: ls.flatMap Label.types

/-- None of the names is taken: the buckets have their own, and so have the types, which no item
of the module has, and the base has no method yet that is called like a classifier. -/
structure Available (base : Ident) (items : List Item) (ls : List Label) : Prop where
  discriminators : (ls.map (·.discriminator)).Nodup
  classifiers : (ls.map (·.classifier)).Nodup
  types : (typesUnder base ls).Nodup
  free : ∀ item ∈ items, ∀ own ∈ item.name?, own.text ∉ typesUnder base ls
  methods : ∀ i ∈ Item.inherentImpls items base, ∀ member ∈ i.members, ∀ own ∈ member.fnName?,
    own.text ∉ ls.map (·.classifier)

/-! ## Refusals -/

/-- The first of a list that is of some kind. -/
inductive FirstOf {α : Type} (kind : α → Prop) (as : List α) : α → Prop
  | intro {front back : List α} {a : α} (split : as = front ++ a :: back)
      (before : ∀ b ∈ front, ¬ kind b) (here : kind a) : FirstOf kind as a

/-- A role's bucket has a name in common with one before it, the earliest of which is reported. -/
inductive Collides (base : Ident) (before : List Label) (l : Label) : ExpandError → Prop
  | intro {earliest : Label} {role name : String}
      (first : FirstOf (fun x => ¬ x.Apart l) before earliest)
      (shared : earliest.shared? l = some name) (role_eq : l.role = some role) :
      Collides base before l
        (.discriminatorNameClash (earliest.role.getD base.text) role name)

/-- The names of the items that define something. -/
def itemNames (items : List Item) : List String := (items.filterMap Item.name?).map (·.text)

/-- The names of the functions of the base. -/
def ownMethods (base : Ident) (items : List Item) : List String :=
  (Hierarchy.methodNames (Item.inherentImpls items base)).map (·.text)

/-- Why a hierarchy is not built: the first name that is taken. -/
inductive Refused (base : Ident) (items : List Item) (ls : List Label) : ExpandError → Prop
  /-- The first role whose bucket collides with one before it. -/
  | bucket {before after : List Label} {l : Label} {e : ExpandError}
      (split : ls = before ++ l :: after) (apart : before.Pairwise Label.Apart)
      (collides : Collides base before l e) : Refused base items ls e
  /-- The first type that is called like one before it. -/
  | type {before after : List String} {name : String} (apart : ls.Pairwise Label.Apart)
      (split : typesUnder base ls = before ++ name :: after) (distinct : before.Nodup)
      (again : name ∈ before) : Refused base items ls (.generatedNameClash name)
  /-- The first item of the module that is called like a type. -/
  | item {own : String} (apart : ls.Pairwise Label.Apart) (distinct : (typesUnder base ls).Nodup)
      (first : FirstOf (· ∈ typesUnder base ls) (itemNames items) own) :
      Refused base items ls (.generatedNameClash own)
  /-- The first function of the base that is called like a classifier. -/
  | method {own : String} (apart : ls.Pairwise Label.Apart)
      (distinct : (typesUnder base ls).Nodup)
      (free : ∀ item ∈ items, ∀ own ∈ item.name?, own.text ∉ typesUnder base ls)
      (first : FirstOf (· ∈ ls.map (·.classifier)) (ownMethods base items) own) :
      Refused base items ls (.generatedNameClash (base.text ++ "::" ++ own))

variable {c : Config} {suffix : String} {base role : Ident} {variants : List Variant}
variable {roles : List Ident} {buckets all : List Bucket} {bucket : Bucket} {items : List Item}
variable {ls : List Label} {h : Hierarchy} {e : ExpandError} {f : Failure}

theorem mem_itemNames {own : String} :
    own ∈ itemNames items ↔ ∃ item ∈ items, ∃ name ∈ item.name?, name.text = own := by
  simp only [itemNames, List.mem_map, List.mem_filterMap, Option.mem_def]
  grind

/-- A name of a function of the base stands in one of its implementations. -/
theorem mem_ownMethods {own : String} : own ∈ ownMethods base items ↔
    ∃ i ∈ Item.inherentImpls items base, ∃ member ∈ i.members, ∃ name ∈ member.fnName?,
      name.text = own := by
  simp only [ownMethods, Hierarchy.methodNames, List.mem_map, List.mem_flatMap, List.mem_filterMap,
    Option.mem_def]
  grind

/-- What is refused has a name that is not available. -/
theorem Refused.not_available (hrefused : Refused base items ls e) : ¬ Available base items ls := by
  intro havailable
  cases hrefused with
  | @bucket before after l e split apart collides =>
    have hapart : ls.Pairwise Label.Apart :=
      Label.pairwise_apart_iff.2 ⟨havailable.discriminators, havailable.classifiers⟩
    obtain ⟨⟨hbefore, -, hmeets⟩, -, -⟩ := collides
    rw [split] at hapart
    refine hmeets ((List.pairwise_append.1 hapart).2.2 _ ?_ _ List.mem_cons_self)
    rw [hbefore]
    exact List.mem_append_right _ List.mem_cons_self
  | @type before after name apart split distinct again =>
    have htypes := havailable.types
    rw [split] at htypes
    exact (List.nodup_append.1 htypes).2.2 _ again _ List.mem_cons_self rfl
  | item apart distinct first =>
    obtain ⟨split, -, htaken⟩ := first
    obtain ⟨item, hitem, own, hown, rfl⟩ := mem_itemNames.1 (split ▸ List.mem_append_right _
      List.mem_cons_self)
    exact havailable.free item hitem own hown htaken
  | method apart distinct free first =>
    obtain ⟨split, -, htaken⟩ := first
    obtain ⟨i, hi, member, hmember, own, hown, rfl⟩ := mem_ownMethods.1 (split ▸
      List.mem_append_right _ List.mem_cons_self)
    exact havailable.methods i hi member hmember own hown htaken

/-! ## Searching -/

/-- What a search finds is the first that fits. -/
theorem FirstOf.of_find? {α : Type} {p : α → Bool} {as : List α} {a : α}
    (hfind : as.find? p = some a) : FirstOf (p · = true) as a := by
  obtain ⟨hhere, front, back, hsplit, hbefore⟩ := List.find?_eq_some_iff_append.1 hfind
  refine .intro hsplit (fun b hb hkind => ?_) hhere
  have hnot := hbefore b hb
  rw [hkind] at hnot
  exact absurd hnot (by decide)

/-- The first of some kind stays the first when the list is mapped, if the kinds agree. -/
theorem FirstOf.map {α β : Type} {f : α → β} {kind : α → Prop} {kind' : β → Prop} {as : List α}
    {a : α} (hfirst : FirstOf kind as a) (hkind : ∀ b, kind b ↔ kind' (f b)) :
    FirstOf kind' (as.map f) (f a) := by
  obtain ⟨hsplit, hbefore, hhere⟩ := hfirst
  refine .intro (by rw [hsplit, List.map_append, List.map_cons]) (fun b hb => ?_)
    ((hkind _).1 hhere)
  obtain ⟨x, hx, rfl⟩ := List.mem_map.1 hb
  exact fun htaken => hbefore x hx ((hkind x).2 htaken)

/-- **A name that is repeated is the first that is**: those before it are distinct. -/
theorem firstRepeated?_eq_some {seen names : List Ident} {name : Ident}
    (hrepeated : Hierarchy.firstRepeated? seen names = some name) :
    ∃ before after, names.map (·.text) = before ++ name.text :: after ∧ before.Nodup ∧
      (∀ s ∈ seen, s.text ∉ before) ∧ (name.text ∈ before ∨ ∃ s ∈ seen, s.text = name.text) := by
  induction names generalizing seen with
  | nil => cases hrepeated
  | cons first rest ih =>
    unfold Hierarchy.firstRepeated? at hrepeated
    split at hrepeated
    · rename_i hseen
      obtain rfl : first = name := Option.some.inj hrepeated
      obtain ⟨s, hs, hsame⟩ := List.any_eq_true.1 hseen
      refine ⟨[], rest.map (·.text), rfl, .nil, fun _ _ => List.not_mem_nil, .inr ⟨s, hs, ?_⟩⟩
      exact (Ident.sameName_iff.1 hsame).symm
    · rename_i hnew
      obtain ⟨before, after, hsplit, hdistinct, hapart, hagain⟩ := ih hrepeated
      have hfirst : first.text ∉ before := hapart first List.mem_cons_self
      refine ⟨first.text :: before, after, by rw [List.map_cons, hsplit, List.cons_append],
        List.nodup_cons.2 ⟨hfirst, hdistinct⟩, fun s hs hmem => ?_, ?_⟩
      · rcases List.mem_cons.1 hmem with hsame | hmem
        · exact hnew (List.any_eq_true.2 ⟨s, hs, Ident.sameName_iff.2 hsame.symm⟩)
        · exact hapart s (List.mem_cons_of_mem _ hs) hmem
      · rcases hagain with hbefore | ⟨s, hs, hsame⟩
        · exact .inl (List.mem_cons_of_mem _ hbefore)
        · rcases List.mem_cons.1 hs with rfl | hs
          · exact .inl (hsame ▸ List.mem_cons_self)
          · exact .inr ⟨s, hs, hsame⟩

/-! ## The loop over the roles -/

theorem IsBucketOf.label_eq (hbucket : IsBucketOf suffix base role variants bucket) :
    bucket.label = Label.ofRole suffix base role := by
  obtain ⟨hrole, hdiscriminator, hclassifier, -⟩ := hbucket
  rw [Bucket.label, Label.ofRole, hrole, hdiscriminator, hclassifier]
  rfl

/-- What two buckets share is what their labels share. -/
theorem map_text_sharedName? (a b : Bucket) :
    (a.sharedName? b).map (·.text) = a.label.shared? b.label := by
  unfold Bucket.sharedName? Label.shared? Bucket.label
  simp only [Ident.sameName_iff]
  split
  · rfl
  · split <;> rfl

/-- **A new bucket is let in if it is apart from all before it**, and otherwise refused for the
earliest that it collides with. -/
theorem checkAgainst_verdict (base : Ident) (buckets : List Bucket)
    (hrole : bucket.label.role = some role.text) :
    (bucket.checkAgainst base role buckets = .ok () ∧
      ∀ l ∈ buckets.map Bucket.label, l.Apart bucket.label) ∨
    ∃ e, bucket.checkAgainst base role buckets = .error (e.at role.span) ∧
      Collides base (buckets.map Bucket.label) bucket.label e := by
  have hapart (b : Bucket) : ((b.sharedName? bucket).map fun name => (b, name)) = none ↔
      b.label.Apart bucket.label := by
    rw [← Label.shared?_eq_none_iff, ← map_text_sharedName?, Option.map_eq_none_iff,
      Option.map_eq_none_iff]
  unfold Bucket.checkAgainst
  cases hfound : buckets.findSome? fun b => (b.sharedName? bucket).map fun name => (b, name) with
  | none =>
    refine .inl ⟨rfl, fun l hl => ?_⟩
    obtain ⟨b, hb, rfl⟩ := List.mem_map.1 hl
    exact (hapart b).1 (List.findSome?_eq_none_iff.1 hfound b hb)
  | some found =>
    obtain ⟨front, b, back, hsplit, hhere, hbefore⟩ := List.findSome?_eq_some_iff.1 hfound
    obtain ⟨name, hname, rfl⟩ := Option.map_eq_some_iff.1 hhere
    have hshared : b.label.shared? bucket.label = some name.text := by
      rw [← map_text_sharedName?, hname]
      rfl
    have hfirst : FirstOf (fun b : Bucket => ¬ b.label.Apart bucket.label) buckets b := by
      refine .intro hsplit (fun b' hb' hmeets => hmeets ((hapart b').1 (hbefore b' hb'))) ?_
      rw [← Label.shared?_eq_none_iff, hshared]
      exact nofun
    have hcollides : Collides base (buckets.map Bucket.label) bucket.label _ :=
      .intro (hfirst.map fun _ => Iff.rfl) hshared hrole
    have hearliest : (b.role.getD base).text = b.label.role.getD base.text := by
      unfold Bucket.label
      cases b.role <;> rfl
    refine .inr ⟨_, ?_, hcollides⟩
    dsimp only
    rw [hearliest]

/-- The verdict of the loop over the roles: the labels are pairwise apart, or the first one that is
not is refused, or a role that is played derives no names. -/
inductive LoopVerdict (suffix : String) (base : Ident) (variants : List Variant)
    (roles : List Ident) (ls : List Label) : Except Stop (List Bucket) → Prop
  | built {all : List Bucket} (labels_eq : all.map Bucket.label = ls)
      (apart : ls.Pairwise Label.Apart) : LoopVerdict suffix base variants roles ls (.ok all)
  | refused {front back : List Label} {l : Label} {e : ExpandError} {span : Span}
      (split : ls = front ++ l :: back) (apart : front.Pairwise Label.Apart)
      (collides : Collides base front l e) :
      LoopVerdict suffix base variants roles ls (.error (.failure (e.at span)))
  | nameless {role : Ident} {fault : NameFault} (mem : role ∈ roles)
      (played : Played variants role) (names : ¬ DerivesNames suffix base role) :
      LoopVerdict suffix base variants roles ls (.error (.panic fault))

theorem LoopVerdict.cons {x : Except Stop (List Bucket)}
    (hverdict : LoopVerdict suffix base variants roles ls x) (role : Ident) :
    LoopVerdict suffix base variants (role :: roles) ls x := by
  cases hverdict with
  | built labels_eq apart => exact .built labels_eq apart
  | refused split apart collides => exact .refused split apart collides
  | nameless mem played names => exact .nameless (List.mem_cons_of_mem _ mem) played names

/-- **The loop over the roles keeps the labels before it apart**, and stops at the first that is
not. -/
theorem addRoles_verdict (suffix : String) (base : Ident) (variants : List Variant)
    (roles : List Ident) (hapart : (buckets.map Bucket.label).Pairwise Label.Apart) :
    LoopVerdict suffix base variants roles (buckets.map Bucket.label ++
        (roles.filter (isPlayed variants)).map (Label.ofRole suffix base))
      (addRoles suffix base variants buckets roles).result := by
  induction roles generalizing buckets with
  | nil =>
    rw [List.filter_nil, List.map_nil, List.append_nil, result_addRoles_nil]
    exact .built rfl hapart
  | cons role rest ih =>
    by_cases hplayed : Played variants role
    · rw [List.filter_cons_of_pos (isPlayed_iff.2 hplayed), List.map_cons,
        addRoles_of_played hplayed]
      cases hbucket : Bucket.ofRole suffix base role (variants.filter (·.plays role)) with
      | error fault =>
        have hnames : ¬ DerivesNames suffix base role := (ofRole_eq_error_iff _).1 ⟨fault, hbucket⟩
        rw [Outcome.result_bind_eq_error.2 (.inl (Outcome.result_liftM_name_error.2
          ⟨fault, rfl, rfl⟩))]
        exact .nameless List.mem_cons_self hplayed hnames
      | ok bucket =>
        have hlabel := (ofRole_eq_ok hbucket).label_eq
        have hrole : bucket.label.role = some role.text := by
          rw [hlabel]
          rfl
        rw [Outcome.result_bind_of_ok (Outcome.result_liftM_name.2 rfl)]
        rcases checkAgainst_verdict base buckets hrole with
          ⟨hcheck, hnew⟩ | ⟨e, hcheck, hcollides⟩
        · rw [Outcome.result_bind_of_ok (Outcome.result_liftM_failure.2 hcheck)]
          have hmore : ((buckets ++ [bucket]).map Bucket.label).Pairwise Label.Apart := by
            rw [List.map_append]
            refine List.pairwise_append.2 ⟨hapart, List.pairwise_singleton _ _, ?_⟩
            intro l hl l' hl'
            rw [List.mem_singleton.1 hl']
            exact hnew l hl
          have hverdict := (ih hmore).cons role
          rwa [List.map_append, List.append_assoc, List.map_singleton, hlabel,
            List.singleton_append] at hverdict
        · rw [hlabel] at hcollides
          rw [Outcome.result_bind_eq_error.2 (.inl (Outcome.result_liftM_failure_error.2
            ⟨_, hcheck, rfl⟩))]
          exact .refused rfl hapart hcollides
    · rw [List.filter_cons_of_neg (fun h => hplayed (isPlayed_iff.1 h)),
        result_addRoles_of_not_played hplayed]
      exact (ih hapart).cons role

/-! ## Types and methods -/

theorem map_text_eq_typesUnder :
    h.typeNames.map (·.text) = typesUnder h.base (h.buckets.map Bucket.label) := by
  unfold Hierarchy.typeNames typesUnder
  rw [List.map_cons, List.flatMap_map, List.map_flatMap]
  congr 2
  funext b
  unfold Label.types Bucket.label
  cases b.role <;> rfl

/-- **Types are let in if they are distinct and no item is called like one**, and otherwise refused
for the first that is taken. -/
theorem checkTypes_verdict (items : List Item)
    (hapart : (h.buckets.map Bucket.label).Pairwise Label.Apart) :
    (h.checkTypes items = .ok () ∧ (typesUnder h.base (h.buckets.map Bucket.label)).Nodup ∧
      ∀ item ∈ items, ∀ own ∈ item.name?,
        own.text ∉ typesUnder h.base (h.buckets.map Bucket.label)) ∨
    ∃ e span, h.checkTypes items = .error (e.at span) ∧
      Refused h.base items (h.buckets.map Bucket.label) e := by
  have htaken (own : Ident) : h.typeNames.any own.sameName = true ↔
      own.text ∈ typesUnder h.base (h.buckets.map Bucket.label) := by
    rw [← map_text_eq_typesUnder, List.mem_map, List.any_eq_true]
    exact exists_congr fun name => and_congr_right fun _ => Ident.sameName_iff.trans eq_comm
  unfold Hierarchy.checkTypes
  cases hrepeated : Hierarchy.firstRepeated? [] h.typeNames with
  | some name =>
    obtain ⟨before, after, hsplit, hdistinct, -, hagain⟩ := firstRepeated?_eq_some hrepeated
    rw [map_text_eq_typesUnder] at hsplit
    refine .inr ⟨_, _, rfl, .type hapart hsplit hdistinct ?_⟩
    rcases hagain with hbefore | ⟨s, hs, -⟩
    · exact hbefore
    · exact absurd hs List.not_mem_nil
  | none =>
    have hdistinct := (firstRepeated?_eq_none hrepeated).1
    rw [map_text_eq_typesUnder] at hdistinct
    dsimp only
    cases hfound : (items.filterMap Item.name?).find? fun name =>
        h.typeNames.any name.sameName with
    | some name =>
      refine .inr ⟨_, _, rfl, .item hapart hdistinct ?_⟩
      exact (FirstOf.of_find? hfound).map htaken
    | none =>
      refine .inl ⟨rfl, hdistinct, fun item hitem own hown hmem => ?_⟩
      exact List.find?_eq_none.1 hfound own (List.mem_filterMap.2 ⟨item, hitem, hown⟩)
        ((htaken own).2 hmem)

/-- **Classifiers are let in if no function of the base is called like one**, and otherwise refused
for the first that is. -/
theorem checkMethods_verdict (hapart : (h.buckets.map Bucket.label).Pairwise Label.Apart)
    (hdistinct : (typesUnder h.base (h.buckets.map Bucket.label)).Nodup)
    (hfree : ∀ item ∈ items, ∀ own ∈ item.name?,
      own.text ∉ typesUnder h.base (h.buckets.map Bucket.label)) :
    (h.checkMethods items = .ok () ∧ ∀ i ∈ Item.inherentImpls items h.base,
      ∀ member ∈ i.members, ∀ own ∈ member.fnName?,
        own.text ∉ (h.buckets.map Bucket.label).map (·.classifier)) ∨
    ∃ e span, h.checkMethods items = .error (e.at span) ∧
      Refused h.base items (h.buckets.map Bucket.label) e := by
  have htaken (own : Ident) : (h.buckets.any fun b => b.classifier.sameName own) = true ↔
      own.text ∈ (h.buckets.map Bucket.label).map (·.classifier) := by
    rw [List.map_map, List.mem_map, List.any_eq_true]
    simp only [Ident.sameName_iff]
    rfl
  unfold Hierarchy.checkMethods
  dsimp only
  cases hfound : (Hierarchy.methodNames (Item.inherentImpls items h.base)).find? fun name =>
      h.buckets.any fun b => b.classifier.sameName name with
  | some name =>
    refine .inr ⟨_, _, rfl, .method hapart hdistinct hfree ?_⟩
    exact (FirstOf.of_find? hfound).map htaken
  | none =>
    refine .inl ⟨rfl, fun i hi member hmember own hown hmem => ?_⟩
    have hmethod : own ∈ Hierarchy.methodNames (Item.inherentImpls items h.base) :=
      List.mem_flatMap.2 ⟨i, hi, List.mem_filterMap.2 ⟨member, hmember, hown⟩⟩
    exact List.find?_eq_none.1 hfound own hmethod ((htaken own).2 hmem)

/-! ## Hierarchies -/

/-- The verdict on a hierarchy with some labels: it is built and they are available, or it is
refused for one that is not, or a role that is played derives no names. -/
inductive Verdict (suffix : String) (base : Ident) (roles : List Ident) (variants : List Variant)
    (items : List Item) (ls : List Label) : Except Stop Hierarchy → Prop
  | built {h : Hierarchy} (base_eq : h.base = base) (labels_eq : h.buckets.map Bucket.label = ls)
      (available : Available base items ls) : Verdict suffix base roles variants items ls (.ok h)
  | refused {e : ExpandError} {span : Span} (refused : Refused base items ls e) :
      Verdict suffix base roles variants items ls (.error (.failure (e.at span)))
  | nameless {role : Ident} {fault : NameFault} (mem : role ∈ roles)
      (played : Played variants role) (names : ¬ DerivesNames suffix base role) :
      Verdict suffix base roles variants items ls (.error (.panic fault))

/-- **With its two fragments, a configuration comes to a verdict.** -/
theorem verdict_of_fragments {discriminator classifier : Ident} (base : Ident)
    (roles : List Ident) (variants : List Variant) (items : List Item)
    (hdiscriminator : c.discriminator = .ok discriminator)
    (hclassifier : c.classifier = .ok classifier) :
    Verdict c.sealedSuffix base roles variants items
      (labels c.sealedSuffix discriminator classifier base variants roles)
      (Hierarchy.build c base roles variants items).result := by
  have hapart : ((aggregate discriminator classifier variants).map Bucket.label).Pairwise
      Label.Apart := List.pairwise_singleton _ _
  have hloop := addRoles_verdict c.sealedSuffix base variants roles hapart
  change LoopVerdict _ _ _ _ (labels c.sealedSuffix discriminator classifier base variants roles) _
    at hloop
  generalize labels c.sealedSuffix discriminator classifier base variants roles = ls at hloop ⊢
  rw [Hierarchy.build, (Hierarchy.carriesOut_buildInContext _ _ _ _ _).fresh_eq]
  rw [Outcome.result_bind_of_ok
      (Outcome.result_liftM_failure.2 (Config.reportAt_eq_ok_iff.2 hdiscriminator)),
    Outcome.result_bind_of_ok
      (Outcome.result_liftM_failure.2 (Config.reportAt_eq_ok_iff.2 hclassifier))]
  unfold aggregate at hloop
  generalize hresult : (addRoles c.sealedSuffix base variants
    [⟨none, discriminator, classifier, variants⟩] roles).result = result at hloop
  cases hloop with
  | refused split apart collides =>
    rw [Outcome.result_bind_eq_error.2 (.inl hresult)]
    exact .refused (.bucket split apart collides)
  | nameless mem played names =>
    rw [Outcome.result_bind_eq_error.2 (.inl hresult)]
    exact .nameless mem played names
  | @built all labels_eq apart =>
    rw [Outcome.result_bind_of_ok hresult]
    let h : Hierarchy := ⟨base, sharedVisibility variants, variants, all⟩
    change Verdict _ _ _ _ _ _ (Outcome.result (do
      (h.checkTypes items : Except Failure Unit)
      (h.checkMethods items : Except Failure Unit)
      (h.shadows items).forM fun s => .report s.warning
      return h : Outcome Hierarchy))
    have hlabels : h.buckets.map Bucket.label = ls := labels_eq
    subst hlabels
    rcases checkTypes_verdict items apart with
      ⟨htypes, hdistinct, hfree⟩ | ⟨e, span, htypes, hrefused⟩
    · rw [Outcome.result_bind_of_ok (Outcome.result_liftM_failure.2 htypes)]
      rcases checkMethods_verdict apart hdistinct hfree with
        ⟨hmethods, hunused⟩ | ⟨e, span, hmethods, hrefused⟩
      · rw [Outcome.result_bind_of_ok (Outcome.result_liftM_failure.2 hmethods),
          Outcome.result_bind_of_ok (result_forM_report _), Outcome.result_pure]
        obtain ⟨hdiscriminators, hclassifiers⟩ := Label.pairwise_apart_iff.1 apart
        exact .built rfl rfl ⟨hdiscriminators, hclassifiers, hdistinct, hfree, hunused⟩
      · rw [Outcome.result_bind_eq_error.2 (.inl (Outcome.result_liftM_failure_error.2
          ⟨_, hmethods, rfl⟩))]
        exact .refused hrefused
    · rw [Outcome.result_bind_eq_error.2 (.inl (Outcome.result_liftM_failure_error.2
        ⟨_, htypes, rfl⟩))]
      exact .refused hrefused

/-- **When a hierarchy is built.** The labels of one that is built are those of all variants and of
the roles that are played; its discriminators are distinct and so are its classifiers, the types
that are printed are distinct and no item is called like one, and no function of the base like a
classifier. Conversely, where the configuration is valid and the roles that are played derive
names, a hierarchy is built if these names are available, and otherwise it is refused for the first
that is not: for a bucket, with the earliest one that the first offending role collides with. -/
theorem build_verdict (c : Config) (base : Ident) (roles : List Ident) (variants : List Variant)
    (items : List Item) :
    (∀ h, (Hierarchy.build c base roles variants items).result = .ok h →
      ∃ discriminator classifier code, c.discriminator = .ok discriminator ∧
        c.classifier = .ok classifier ∧
        h.buckets.map Bucket.label =
          labels c.sealedSuffix discriminator classifier base variants roles ∧
        Code.read h.tokens = some code ∧
        (declaredTypes code).Perm (typesUnder base (h.buckets.map Bucket.label)) ∧
        Available base items (h.buckets.map Bucket.label)) ∧
    (c.validate = .ok () →
      (∀ role ∈ roles, Played variants role → DerivesNames c.sealedSuffix base role) →
      ∃ discriminator classifier, c.discriminator = .ok discriminator ∧
        c.classifier = .ok classifier ∧
        ((∃ h, (Hierarchy.build c base roles variants items).result = .ok h) ↔
          Available base items
            (labels c.sealedSuffix discriminator classifier base variants roles)) ∧
        ∀ s, (Hierarchy.build c base roles variants items).result = .error s →
          ∃ e span, s = .failure (e.at span) ∧ Refused base items
            (labels c.sealedSuffix discriminator classifier base variants roles) e) := by
  refine ⟨fun h hbuild => ?_, fun hvalid hnames => ?_⟩
  · obtain ⟨discriminator, classifier, -, hdiscriminator, hclassifier, -⟩ :=
      build_eq_ok_iff.1 hbuild
    have hverdict := verdict_of_fragments base roles variants items hdiscriminator hclassifier
    rw [hbuild] at hverdict
    cases hverdict with
    | built base_eq labels_eq available =>
      refine ⟨discriminator, classifier, h.declarations, hdiscriminator, hclassifier, labels_eq,
        read_tokens h, ?_, labels_eq ▸ available⟩
      rw [← base_eq, ← map_text_eq_typesUnder]
      exact perm_declaredTypes h
  · obtain ⟨⟨_, classifier, _, discriminator, _, _, hclassifier, _, hdiscriminator, _⟩⟩ :=
      Config.nonempty_fragments hvalid
    refine ⟨discriminator, classifier, hdiscriminator, hclassifier, ?_⟩
    have hverdict := verdict_of_fragments base roles variants items hdiscriminator hclassifier
    generalize (Hierarchy.build c base roles variants items).result = result at hverdict ⊢
    cases hverdict with
    | @built h base_eq labels_eq available =>
      exact ⟨⟨fun _ => available, fun _ => ⟨h, rfl⟩⟩, fun s hs => nomatch hs⟩
    | @refused e span hrefused =>
      refine ⟨⟨fun ⟨_, hok⟩ => (nomatch hok), fun h => absurd h hrefused.not_available⟩, ?_⟩
      rintro s ⟨⟩
      exact ⟨e, span, rfl, hrefused⟩
    | @nameless role fault mem played names => exact absurd (hnames role mem played) names

/-- The base of the samples. -/
def viewAction : Ident := ⟨"ViewAction", .callSite, by decide⟩

/-- A role of the samples, of which the base has one word. -/
def navigationAction : Ident := ⟨"NavigationAction", .callSite, by decide⟩

/-- A role of the samples, of which the base has two words. -/
def navigationViewAction : Ident := ⟨"NavigationViewAction", .callSite, by decide⟩

/-- A variant of the samples that plays both roles. -/
def navigated : Variant :=
  ⟨⟨"Navigated", .callSite, by decide⟩, .everywhere, false,
    [navigationAction, navigationViewAction]⟩

/-- A hierarchy with one of two roles is built, and one with both is refused, as their
discriminators have the same name. -/
theorem build_verdict_navigation :
    (∃ h, (Hierarchy.build .default viewAction [navigationAction] [navigated] []).result = .ok h ∧
      Available viewAction [] (h.buckets.map Bucket.label)) ∧
    ∃ discriminator classifier e span,
      (Hierarchy.build .default viewAction [navigationAction, navigationViewAction]
        [navigated] []).result = .error (.failure (ExpandError.at e span)) ∧
      Refused viewAction [] (labels "SealedType" discriminator classifier viewAction [navigated]
        [navigationAction, navigationViewAction]) e := by
  have hvalid : Config.default.validate = .ok () := by
    obtain ⟨⟨⟩, hvalid⟩ := exists_eq_ok_of_isOk (x := Config.default.validate) (by decide +kernel)
    exact hvalid
  have hnames : ∀ role ∈ [navigationAction, navigationViewAction], Played [navigated] role →
      DerivesNames Config.default.sealedSuffix viewAction role := by
    intro role hrole _
    simp only [List.mem_cons, List.not_mem_nil, or_false] at hrole
    rcases hrole with rfl | rfl
    · exact ⟨by decide +kernel, by decide +kernel⟩
    · exact ⟨by decide +kernel, by decide +kernel⟩
  refine ⟨?_, ?_⟩
  · obtain ⟨h, hbuild⟩ := exists_eq_ok_of_isOk
      (x := (Hierarchy.build .default viewAction [navigationAction] [navigated] []).result)
      (by decide +kernel)
    obtain ⟨hbuilt, -⟩ := build_verdict .default viewAction [navigationAction] [navigated] []
    obtain ⟨-, -, -, -, -, -, -, -, havailable⟩ := hbuilt h hbuild
    exact ⟨h, hbuild, havailable⟩
  · obtain ⟨-, hverdict⟩ := build_verdict .default viewAction
      [navigationAction, navigationViewAction] [navigated] []
    obtain ⟨discriminator, classifier, -, -, -, hstop⟩ := hverdict hvalid hnames
    have hfails : (Hierarchy.build .default viewAction [navigationAction, navigationViewAction]
        [navigated] []).result.isOk = false := by decide +kernel
    cases hresult : (Hierarchy.build .default viewAction [navigationAction, navigationViewAction]
        [navigated] []).result with
    | ok h =>
      rw [hresult] at hfails
      cases hfails
    | error s =>
      obtain ⟨e, span, rfl, hrefused⟩ := hstop s hresult
      exact ⟨discriminator, classifier, e, span, rfl, hrefused⟩

end DeclSynth.Sealed
