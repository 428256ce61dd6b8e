import DeclSynth.Proofs.Sealed.Clashes
import DeclSynth.Proofs.Sealed.Roles

/-!
# Methods that hide classifiers

A struct's own method that takes `self` or `&self` goes before the classifier of a role
that it is called like, whatever else its signature says: `hiders` lists these methods of
the structs that list a role. What is reported of them is what is `Hider.isNoticed`: the
getters, spelled as the classifier is, of an implementation that spells the struct as it
is. All that hide a classifier are reported exactly if none is `Hider.Overlooked`
(`expand_shadows`).
-/

namespace DeclSynth

/-! ## Own methods -/

/-- Whether a type is a name, or a path that ends in it, perhaps between parentheses. -/
def Ty.names (name : String) : Ty → Bool
  | .path _ none p =>
    match p.segments.getLast? with
    | some s => s.name.plainText == name
    | none => false
  | .paren _ ty | .group _ ty => ty.names name
  | _ => false

theorem Ty.names_iff {name : Ident} {ty : Ty} :
    ty.names name.plainText = true ↔ ty.IsNamed name := by
  constructor
  · intro h
    fun_induction Ty.names name.plainText ty with
    | case1 span p s hlast => exact .path hlast (eq_of_beq h)
    | case2 => cases h
    | case3 span ty ih => exact .paren (ih h)
    | case4 span ty ih => exact .group (ih h)
    | case5 => cases h
  · intro h
    induction h with
    | path last same =>
      rw [Ty.names, last]
      exact beq_iff_eq.2 same
    | paren _ ih => exact ih
    | group _ ih => exact ih

/-- A type that is spelled as a name is the name's. -/
theorem Ty.names_of_endsIn {name : Ident} {ty : Ty} (h : ty.endsIn name = true) :
    ty.names name.plainText = true := by
  unfold Ty.endsIn at h
  split at h
  · split at h
    · rename_i s hlast
      rw [Ty.names, hlast]
      exact beq_iff_eq.2 (congrArg Ident.dropRaw (Ident.sameName_iff.1 h))
    · cases h
  · cases h

/-- The signature of a member, if it is a function. -/
def Member.signature? : Member → Option Signature
  | fn _ _ _ sig _ => some sig
  | const .. | type .. | macroCall .. | verbatim _ => none

/-- The signatures of the functions among members. -/
def Member.signatures (members : List Member) : List Signature :=
  members.filterMap Member.signature?

/-- The getters among members are the functions with a getter's signature. -/
theorem Member.filterMap_fnName?_computed (members : List Member) :
    (members.filter (·.facts.computed)).filterMap Member.fnName? =
      ((signatures members).filter (·.isGetter)).map (·.name) := by
  induction members with
  | nil => rfl
  | cons member rest ih =>
    cases member with
    | fn attributes vis defaultWord sig body =>
      have hcomputed : (fn attributes vis defaultWord sig body).facts.computed = sig.isGetter := rfl
      have hsignatures : signatures (fn attributes vis defaultWord sig body :: rest) =
          sig :: signatures rest := rfl
      rw [hsignatures, List.filter_cons, List.filter_cons, hcomputed]
      split
      · rw [List.map_cons, ← ih]
        exact List.filterMap_cons_some rfl
      · exact ih
    | const _ _ _ | type _ _ | macroCall _ _ | verbatim _ => exact ih

/-- The implementations of a type's own methods among items, however they spell the type. -/
def Item.implsNaming (items : List Item) (name : Ident) : List ImplItem :=
  items.filterMap fun
    | .impl i => if i.traitPath.isNone && i.selfTy.names name.plainText then some i else none
    | _ => none

theorem Item.mem_implsNaming_iff {items : List Item} {name : Ident} {i : ImplItem} :
    i ∈ Item.implsNaming items name ↔
      Item.impl i ∈ items ∧ i.traitPath = none ∧ i.selfTy.IsNamed name := by
  rw [Item.implsNaming, List.mem_filterMap, ← Ty.names_iff]
  constructor
  · rintro ⟨item, hitem, hsome⟩
    split at hsome
    · split at hsome
      · rename_i hnames
        cases hsome
        simp only [Bool.and_eq_true, Option.isNone_iff_eq_none] at hnames
        exact ⟨hitem, hnames⟩
      · cases hsome
    · cases hsome
  · rintro ⟨hitem, htrait, hnames⟩
    exact ⟨.impl i, hitem, by simp [htrait, hnames]⟩

/-- Whether a type is `Self` or the type of a name. -/
def Ty.isOwn (name : Ident) (ty : Ty) : Bool := ty.names "Self" || ty.names name.plainText

/-- Whether a type that a receiver is given is the type of a name, or a shared reference to it. -/
def Ty.isShared (name : Ident) : Ty → Bool
  | .reference _ _ _ mutable elem => !mutable && elem.isOwn name
  | ty => ty.isOwn name

/-- Whether a receiver is `self` or `&self`, perhaps with its type behind it. -/
def Receiver.isShared (name : Ident) (r : Receiver) : Bool :=
  if r.reference then !r.mutable else r.ty.all (·.isShared name)

/-- Whether a method of a type takes `self` or `&self`. -/
def Signature.takesShared (name : Ident) (sig : Signature) : Bool :=
  match sig.inputs with
  | .receiver r :: _ => r.isShared name
  | _ => false

theorem Signature.isGetter_iff {sig : Signature} : sig.isGetter = true ↔
    ∃ r ty, sig.inputs = [.receiver r] ∧ r.reference = true ∧ r.mutable = false ∧
      sig.output = some ty ∧ ty.isUnit = false ∧ sig.asyncWord = none ∧
      sig.generics.params = [] := by
  unfold Signature.isGetter
  constructor
  · intro h
    simp only [Bool.and_eq_true, Option.isNone_iff_eq_none, List.isEmpty_iff] at h
    obtain ⟨⟨⟨hshared, hreturns⟩, hasync⟩, hgenerics⟩ := h
    split at hshared
    · rename_i r hinputs
      split at hreturns
      · rename_i ty houtput
        simp only [Bool.and_eq_true, Bool.not_eq_true'] at hshared hreturns
        exact ⟨r, ty, hinputs, hshared.1, hshared.2, houtput, hreturns, hasync, hgenerics⟩
      · cases hreturns
    · cases hshared
  · rintro ⟨r, ty, hinputs, hreference, hmutable, houtput, hunit, hasync, hgenerics⟩
    simp [hinputs, hreference, hmutable, houtput, hunit, hasync, hgenerics]

/-- A getter takes `&self`. -/
theorem Signature.takesShared_of_isGetter {sig : Signature} (h : sig.isGetter = true)
    (name : Ident) : sig.takesShared name = true := by
  obtain ⟨r, -, hinputs, hreference, hmutable, -⟩ := Signature.isGetter_iff.1 h
  rw [Signature.takesShared, hinputs]
  simp [Receiver.isShared, hreference, hmutable]

namespace Sealed

/-! ## Hiders -/

/-- The name of a role's classifier. -/
def classifierOf (base role : Ident) : String :=
  Naming.classifierName (Naming.roleStem role.text base.text)

/-- A method of a struct that hides the classifier of a role. -/
structure Hider where
  role : Ident
  member : StructItem
  /-- The struct as the implementation spells it. -/
  selfTy : Ty
  sig : Signature

/-- Whether a method of a type goes before a classifier. -/
def hides (classifier : String) (name : Ident) (sig : Signature) : Bool :=
  sig.takesShared name && sig.name.plainText == Ident.dropRaw classifier

/-- The methods of an implementation that hide the classifier of a role. -/
def hidersIn (base role : Ident) (s : StructItem) (i : ImplItem) : List Hider :=
  ((Member.signatures i.members).filter (hides (classifierOf base role) s.name)).map
    fun sig => ⟨role, s, i.selfTy, sig⟩

/-- The methods that hide the classifier of a role, of the structs that list it. -/
def hidersOf (base : Ident) (structs : List StructItem) (items : List Item) (role : Ident) :
    List Hider :=
  (structs.filter (lists · role.text)).flatMap fun s =>
    (Item.implsNaming items s.name).flatMap (hidersIn base role s)

/-- **The methods that hide a classifier.** -/
def hiders (base : Ident) (roles : List Ident) (structs : List StructItem) (items : List Item) :
    List Hider :=
  roles.flatMap (hidersOf base structs items)

variable {c : Config} {args item : Tokens} {suffix : String} {base role : Ident} {b : Bucket}
variable {roles : List Ident} {structs : List StructItem} {items : List Item} {x : Hider}

/-- A method hides the classifier of a role if it is an own method of a struct that lists the role,
takes `self` or `&self` and is called like the classifier. -/
theorem mem_hiders_iff : x ∈ hiders base roles structs items ↔
    x.role ∈ roles ∧ x.member ∈ structs ∧ lists x.member x.role.text = true ∧
      (∃ i, Item.impl i ∈ items ∧ i.traitPath = none ∧ i.selfTy.IsNamed x.member.name ∧
        i.selfTy = x.selfTy ∧ ∃ member ∈ i.members, member.signature? = some x.sig) ∧
      x.sig.takesShared x.member.name = true ∧
      SameName x.sig.name.text (classifierOf base x.role) := by
  have hcalled (sig : Signature) (role : Ident) :
      (sig.name.plainText == Ident.dropRaw (classifierOf base role)) = true ↔
        SameName sig.name.text (classifierOf base role) := beq_iff_eq
  obtain ⟨role, s, selfTy, sig⟩ := x
  simp only [hiders, hidersOf, hidersIn, hides, List.mem_flatMap, List.mem_filter, List.mem_map,
    Item.mem_implsNaming_iff, Member.signatures, List.mem_filterMap, Bool.and_eq_true, hcalled,
    Hider.mk.injEq]
  constructor
  · rintro ⟨_, hrole, _, ⟨hs, hlists⟩, i, ⟨hitem, htrait, hnamed⟩, _,
      ⟨⟨member, hmember, hsig⟩, hshared, hname⟩, rfl, rfl, rfl, rfl⟩
    exact ⟨hrole, hs, hlists, ⟨i, hitem, htrait, hnamed, rfl, member, hmember, hsig⟩, hshared,
      hname⟩
  · rintro ⟨hrole, hs, hlists, ⟨i, hitem, htrait, hnamed, rfl, member, hmember, hsig⟩, hshared,
      hname⟩
    exact ⟨role, hrole, s, ⟨hs, hlists⟩, i, ⟨hitem, htrait, hnamed⟩, sig,
      ⟨⟨member, hmember, hsig⟩, hshared, hname⟩, rfl, rfl, rfl, rfl⟩

namespace Hider

/-- Whether a method is noticed: it is a getter, spelled as the classifier is, and its
implementation spells the struct as it is. -/
def isNoticed (base : Ident) (x : Hider) : Bool :=
  x.selfTy.endsIn x.member.name && x.sig.isGetter &&
    x.sig.name.text == classifierOf base x.role

/-- The warning of a method that hides a classifier. -/
def warning (base : Ident) (x : Hider) : Diagnostic :=
  ⟨"`" ++ x.member.name.text ++ "::" ++ x.sig.name.text ++
    "` shadows the classifier generated for role `" ++ x.role.text ++ "`; call it as `" ++
    x.role.text ++ "::" ++ classifierOf base x.role ++ "(&value)`", .warning, x.sig.name.span⟩

/-- Why a method that hides a classifier is not noticed. -/
inductive Overlooked (base : Ident) (x : Hider) : Prop
  /-- It takes `self`, or writes out the type of its receiver. -/
  | byValue {r : Receiver} {rest : List Param} (inputs : x.sig.inputs = .receiver r :: rest)
      (value : r.reference = false)
  /-- It has a further parameter. -/
  | further {p next : Param} {rest : List Param} (inputs : x.sig.inputs = p :: next :: rest)
  | generic (params : x.sig.generics.params ≠ [])
  | async (word : x.sig.asyncWord ≠ none)
  /-- It yields nothing. -/
  | unit (output : ∀ ty ∈ x.sig.output, ty.isUnit = true)
  /-- Its name or the classifier's is raw. -/
  | spelled (other : x.sig.name.text ≠ classifierOf base x.role)
  /-- Its implementation spells the struct otherwise. -/
  | placed (other : x.selfTy.endsIn x.member.name = false)

/-- **A method that hides a classifier is noticed or overlooked.** -/
theorem isNoticed_iff (hshared : x.sig.takesShared x.member.name = true) :
    x.isNoticed base = true ↔ ¬ x.Overlooked base := by
  constructor
  · intro hnoticed hoverlooked
    simp only [isNoticed, Bool.and_eq_true, beq_iff_eq] at hnoticed
    obtain ⟨⟨hplaced, hgetter⟩, hspelled⟩ := hnoticed
    obtain ⟨r, ty, hinputs, hreference, -, houtput, hunit, hasync, hgenerics⟩ :=
      Signature.isGetter_iff.1 hgetter
    cases hoverlooked with
    | byValue inputs value =>
      rw [hinputs] at inputs
      cases inputs
      exact absurd hreference (Bool.eq_false_iff.1 value)
    | further inputs =>
      rw [hinputs] at inputs
      cases inputs
    | generic params => exact params hgenerics
    | async word => exact word hasync
    | unit output => exact absurd (output ty houtput) (Bool.eq_false_iff.1 hunit)
    | spelled other => exact other hspelled
    | placed other => exact absurd hplaced (Bool.eq_false_iff.1 other)
  · intro hnone
    have hplaced : x.selfTy.endsIn x.member.name = true :=
      Bool.of_not_eq_false fun other => hnone (.placed other)
    have hspelled : x.sig.name.text = classifierOf base x.role :=
      Decidable.byContradiction fun other => hnone (.spelled other)
    have hgetter : x.sig.isGetter = true := by
      unfold Signature.takesShared at hshared
      split at hshared
      · rename_i r rest hinputs
        have hreference : r.reference = true :=
          Bool.of_not_eq_false fun value => hnone (.byValue hinputs value)
        have hmutable : r.mutable = false := by simpa [Receiver.isShared, hreference] using hshared
        obtain rfl : rest = [] := by
          cases rest with
          | nil => rfl
          | cons next rest => exact absurd (.further hinputs) hnone
        cases houtput : x.sig.output with
        | none => exact absurd (.unit fun ty hty => by simp [houtput] at hty) hnone
        | some ty =>
          refine Signature.isGetter_iff.2
            ⟨r, ty, hinputs, hreference, hmutable, houtput, ?_, ?_, ?_⟩
          · refine Bool.eq_false_iff.2 fun hunit => hnone (.unit fun ty' hty' => ?_)
            rw [houtput, Option.mem_some_iff] at hty'
            exact hty' ▸ hunit
          · exact Decidable.byContradiction fun word => hnone (.async word)
          · exact Decidable.byContradiction fun params => hnone (.generic params)
      · cases hshared
    simp only [isNoticed, Bool.and_eq_true, beq_iff_eq]
    exact ⟨⟨hplaced, hgetter⟩, hspelled⟩

end Hider

/-! ## What is reported -/

/-- What is reported of a getter that hides a classifier. -/
def getterWarning (s : StructItem) (role classifier getter : Ident) : Diagnostic :=
  Hierarchy.Shadow.warning ⟨variantOf s, getter, role, classifier⟩

variable {s : StructItem} {i : ImplItem} {classifier : Ident}

/-- A list that is filtered, and one in which what is left out contributes nothing. -/
theorem flatMap_filter_eq {α β : Type} {p : α → Bool} {f g : α → List β} (as : List α)
    (hin : ∀ a, p a = true → f a = g a) (hout : ∀ a, p a = false → g a = []) :
    (as.filter p).flatMap f = as.flatMap g := by
  induction as with
  | nil => rfl
  | cons a rest ih =>
    rw [List.filter_cons, List.flatMap_cons]
    split
    · rename_i h
      rw [List.flatMap_cons, hin a h, ih]
    · rename_i h
      rw [hout a (Bool.eq_false_iff.2 h), ih, List.nil_append]

/-- In an implementation that spells the struct as it is, the methods that are noticed are the
getters that are spelled as the classifier. -/
theorem map_warning_hidersIn (hclassifier : classifier.text = classifierOf base role)
    (hplaced : i.selfTy.endsIn s.name = true) :
    ((hidersIn base role s i).filter (Hider.isNoticed base)).map (Hider.warning base) =
      (((i.members.filter (·.facts.computed)).filterMap Member.fnName?).filter
        (·.sameName classifier)).map (getterWarning s role classifier) := by
  have hsame (sig : Signature) :
      ((Hider.mk role s i.selfTy sig).isNoticed base &&
          hides (classifierOf base role) s.name sig) =
        (sig.name.sameName classifier && sig.isGetter) := by
    rw [Bool.eq_iff_iff]
    simp only [Hider.isNoticed, hides, hplaced, Bool.and_eq_true, beq_iff_eq, true_and,
      Ident.sameName_iff, hclassifier]
    constructor
    · rintro ⟨⟨hgetter, hname⟩, -⟩
      exact ⟨hname, hgetter⟩
    · rintro ⟨hname, hgetter⟩
      exact ⟨⟨hgetter, hname⟩, Signature.takesShared_of_isGetter hgetter _,
        congrArg Ident.dropRaw hname⟩
  have hwarning : (Hider.warning base ∘ fun sig => Hider.mk role s i.selfTy sig) =
      getterWarning s role classifier ∘ (·.name) := by
    funext sig
    rw [Function.comp_apply, Function.comp_apply]
    unfold getterWarning Hider.warning Hierarchy.Shadow.warning
    rw [hclassifier]
    rfl
  rw [hidersIn, List.filter_map, List.filter_filter, List.map_map,
    Member.filterMap_fnName?_computed, List.filter_map, List.filter_filter, List.map_map, hwarning]
  exact congrArg _ (List.filter_congr fun sig _ => hsame sig)

/-- In any other implementation none is noticed. -/
theorem filter_hidersIn_eq_nil (hother : i.selfTy.endsIn s.name = false) :
    (hidersIn base role s i).filter (Hider.isNoticed base) = [] := by
  refine List.filter_eq_nil_iff.2 fun x hx hnoticed => ?_
  obtain ⟨sig, -, rfl⟩ := List.mem_map.1 hx
  simp [Hider.isNoticed, hother] at hnoticed

/-- Of the implementations of a type's own methods, those are looked at that spell it as it is. -/
theorem inherentImpls_eq_filter (items : List Item) (name : Ident) :
    Item.inherentImpls items name =
      (Item.implsNaming items name).filter (·.selfTy.endsIn name) := by
  rw [Item.inherentImpls, Item.implsNaming, List.filter_filterMap]
  congr 1
  funext item
  cases item with
  | impl i =>
    cases hself : i.selfTy.endsIn name with
    | true =>
      have hnames := Ty.names_of_endsIn hself
      cases htrait : i.traitPath.isNone <;> simp [hself, hnames, htrait, Option.filter]
    | false =>
      simp only [hself, Bool.and_false, Bool.false_eq_true, if_false]
      split
      · exact (if_neg (Bool.eq_false_iff.1 hself)).symm
      · rfl
  | _ => rfl

/-- The methods of a struct that are noticed are its getters that are spelled as the classifier. -/
theorem map_warning_implsNaming (hclassifier : classifier.text = classifierOf base role) :
    (((Item.implsNaming items s.name).flatMap (hidersIn base role s)).filter
        (Hider.isNoticed base)).map (Hider.warning base) =
      ((Item.computedProperties items s.name).filter (·.sameName classifier)).map
        (getterWarning s role classifier) := by
  rw [Item.computedProperties, inherentImpls_eq_filter, List.filter_flatMap, List.map_flatMap,
    List.filter_flatMap, List.map_flatMap]
  refine (flatMap_filter_eq _ (fun i hplaced => ?_) fun i hother => ?_).symm
  · exact (map_warning_hidersIn hclassifier hplaced).symm
  · rw [filter_hidersIn_eq_nil hother, List.map_nil]

/-- **Of the bucket of a role, what is reported is what is noticed of the methods that hide its
classifier.** -/
theorem map_warning_bucket (hbucket : IsBucketOf suffix base role (structs.map variantOf) b) :
    ((hidersOf base structs items role).filter (Hider.isNoticed base)).map (Hider.warning base) =
      (b.members.flatMap fun member =>
        ((Item.computedProperties items member.name).filter (·.sameName b.classifier)).map
          fun getter => (⟨member, getter, role, b.classifier⟩ : Hierarchy.Shadow)).map
        Hierarchy.Shadow.warning := by
  have hmembers : b.members = (structs.filter (lists · role.text)).map variantOf := by
    rw [hbucket.members_eq, List.filter_map]
    congr 1
    exact List.filter_congr fun s _ => plays_variantOf s role
  rw [hidersOf, hmembers, List.flatMap_map, List.filter_flatMap, List.map_flatMap, List.map_flatMap]
  congr 1
  funext s
  rw [map_warning_implsNaming hbucket.classifier_text, List.map_map]
  rfl

/-- What the buckets of some roles report is what is noticed for these roles. -/
theorem map_warning_buckets {h : Hierarchy}
    (hbuckets : List.Forall₂ (fun role b => IsBucketOf suffix base role (structs.map variantOf) b)
      roles h.buckets) :
    (h.shadows items).map Hierarchy.Shadow.warning = roles.flatMap fun role =>
      ((hidersOf base structs items role).filter (Hider.isNoticed base)).map
        (Hider.warning base) := by
  unfold Hierarchy.shadows
  generalize h.buckets = buckets at hbuckets
  induction hbuckets with
  | nil => rfl
  | @cons role b _ _ hbucket _ ih =>
    rw [List.flatMap_cons, List.flatMap_cons, List.map_append, ih, map_warning_bucket hbucket,
      hbucket.role_eq]

/-- **What a hierarchy reports is what is noticed of the methods that hide a classifier.** -/
theorem map_warning_shadows {h : Hierarchy}
    (hbuild : (Hierarchy.build c base roles (structs.map variantOf) items).result = .ok h) :
    (h.shadows items).map Hierarchy.Shadow.warning =
      ((hiders base roles structs items).filter (Hider.isNoticed base)).map
        (Hider.warning base) := by
  obtain ⟨discriminator, classifier, buckets, -, -, hbuckets, rfl, -⟩ := build_eq_ok_iff.1 hbuild
  obtain ⟨new, rfl, hnew⟩ := addRoles_eq_append hbuckets
  -- a role that is not listed has no bucket, and no method hides its classifier
  have hunlisted : ∀ role, isPlayed (structs.map variantOf) role = false →
      ((hidersOf base structs items role).filter (Hider.isNoticed base)).map
        (Hider.warning base) = [] := by
    intro role hrole
    rw [isPlayed_variantOf, isListed, List.any_eq_false] at hrole
    rw [hidersOf, List.filter_eq_nil_iff.2 hrole]
    rfl
  rw [hiders, List.filter_flatMap, List.map_flatMap,
    ← flatMap_filter_eq roles (fun role _ => rfl) hunlisted]
  -- and the bucket of all variants reports nothing
  exact map_warning_buckets (h := ⟨base, sharedVisibility (structs.map variantOf),
    structs.map variantOf, new⟩) hnew

/-- The methods that hide a classifier are all reported exactly if none is overlooked. -/
theorem filter_isNoticed_iff :
    ((hiders base roles structs items).filter (Hider.isNoticed base)).map (Hider.warning base) =
        (hiders base roles structs items).map (Hider.warning base) ↔
      ∀ x ∈ hiders base roles structs items, ¬ x.Overlooked base := by
  have hnoticed : ∀ x ∈ hiders base roles structs items,
      (x.isNoticed base = true ↔ ¬ x.Overlooked base) := fun x hx =>
    Hider.isNoticed_iff (mem_hiders_iff.1 hx).2.2.2.2.1
  constructor
  · intro heq x hx
    have hlength := congrArg List.length heq
    rw [List.length_map, List.length_map, List.length_filter_eq_length_iff] at hlength
    exact (hnoticed x hx).1 (hlength x hx)
  · intro hnone
    rw [List.filter_eq_self.2 fun x hx => (hnoticed x hx).2 (hnone x hx)]

/-- Of a module without variants nothing is reported. -/
theorem diagnostics_of_not_marked {m : Invocation args item} {all : List Item}
    (hitems : (m.sealedItems c).result = .ok all) (hnone : markedStructs m.items = []) :
    (expand c args item).diagnostics = [] := by
  have hcollected := Invocation.collect_of_sealedItems_eq_ok hitems
  rw [m.diagnostics_expand]
  rw [Invocation.sealedItems, sealItems, (carriesOut_sealInContext _ _ _ _ _).fresh_eq]
  rw [Outcome.diagnostics_bind_of_quiet (quiet_collect _ _) hcollected]
  dsimp only
  rw [if_pos (by rw [Invocation.variants, hnone]; rfl)]
  exact Outcome.quiet_bind (Outcome.quiet_log _ _ _) fun _ => Outcome.quiet_pure _

/-- **What is reported of methods that hide classifiers.** A module that is sealed reports some of
its roles as not played, and behind them, once each and in their order, those of the methods that
hide a classifier which are noticed; no other method. All that hide a classifier are reported
exactly if none is overlooked. -/
theorem expand_shadows {out : Tokens} (hout : (expand c args item).result = .ok out) :
    ∃ (m : Invocation args item) (unplayed : List Ident), unplayed ⊆ m.roles ∧
      let methods := hiders m.base m.roles (markedStructs m.items) m.unmarked
      (expand c args item).diagnostics = unplayed.map unplayedWarning ++
        (methods.filter (Hider.isNoticed m.base)).map (Hider.warning m.base) ∧
      ((expand c args item).diagnostics =
          unplayed.map unplayedWarning ++ methods.map (Hider.warning m.base) ↔
        ∀ x ∈ methods, ¬ x.Overlooked m.base) := by
  obtain ⟨m, items, hitems, rfl⟩ := exists_of_expand_eq_ok hout
  have hreports : ∃ unplayed, unplayed ⊆ m.roles ∧
      (expand c args item).diagnostics = unplayed.map unplayedWarning ++
        ((hiders m.base m.roles (markedStructs m.items) m.unmarked).filter
          (Hider.isNoticed m.base)).map (Hider.warning m.base) := by
    by_cases hmarked : markedStructs m.items = []
    · refine ⟨[], List.nil_subset _, ?_⟩
      have hmethods : hiders m.base m.roles (markedStructs m.items) m.unmarked = [] := by
        rw [hmarked]
        exact List.flatMap_eq_nil_iff.2 fun role _ => rfl
      rw [diagnostics_of_not_marked hitems hmarked, hmethods]
      rfl
    · obtain ⟨h, hbuild, -, hdiagnostics⟩ := Invocation.exists_of_sealedItems_eq_ok hitems hmarked
      refine ⟨m.roles.filter fun role => !isPlayed m.variants role, List.filter_subset_self _, ?_⟩
      rw [m.diagnostics_expand, hdiagnostics, map_warning_shadows hbuild]
  obtain ⟨unplayed, hunplayed, hdiagnostics⟩ := hreports
  refine ⟨m, unplayed, hunplayed, hdiagnostics, ?_⟩
  rw [hdiagnostics, List.append_cancel_left_eq, filter_isNoticed_iff]

/-- `mod shape { #[variant(Round)] struct Circle(u8); impl Circle { .. } }`, with one method in the
implementation. -/
def methodSample (method : Tokens) : Tokens :=
  kw "mod" ++ kw "shape" ++ brace (
    op "#" ++ bracket (kw "variant" ++ paren (kw "Round")) ++
      kw "struct" ++ kw "Circle" ++ paren (kw "u8") ++ op ";" ++
    kw "impl" ++ kw "Circle" ++ brace method)

/-- `fn round_type(&self) -> u8 { 0 }` -/
def getterMethod : Tokens :=
  kw "fn" ++ kw "round_type" ++ paren (op "&" ++ kw "self") ++ op "->" ++ kw "u8" ++
    brace (lit "0")

/-- `fn round_type(&self) {}` -/
def unitMethod : Tokens :=
  kw "fn" ++ kw "round_type" ++ paren (op "&" ++ kw "self") ++ brace []

/-- Whether the methods of a module that hide a classifier pass a test. -/
def testHiders (test : Ident → List Hider → Bool) (args item : Tokens) : Bool :=
  match ArgumentList.parse args, Item.parse item with
  | .ok l, .ok (.mod _ _ _ name (some items)) =>
    match declaredRoles l, baseOf l name with
    | .ok roles, .ok base =>
      test base (hiders base roles (markedStructs items) (items.map unmarked))
    | _, _ => false
  | _, _ => false

theorem of_testHiders {test : Ident → List Hider → Bool} (h : testHiders test args item = true)
    (m : Invocation args item) :
    test m.base (hiders m.base m.roles (markedStructs m.items) m.unmarked) = true := by
  unfold testHiders at h
  rw [m.list_eq, m.item_eq] at h
  dsimp only at h
  rwa [m.roles_eq, m.base_eq] at h

/-- Whether some methods are noticed, and no others are there. -/
def allNoticed (base : Ident) (methods : List Hider) : Bool :=
  !methods.isEmpty && methods.all (Hider.isNoticed base)

/-- A getter that hides a classifier is reported. -/
theorem expand_shadows_getter :
    ∃ (m : Invocation shapeRoles (methodSample getterMethod)) (unplayed : List Ident),
      hiders m.base m.roles (markedStructs m.items) m.unmarked ≠ [] ∧
      (expand .default shapeRoles (methodSample getterMethod)).diagnostics =
        unplayed.map unplayedWarning ++
          (hiders m.base m.roles (markedStructs m.items) m.unmarked).map
            (Hider.warning m.base) := by
  obtain ⟨out, hout⟩ := exists_eq_ok_of_isOk
    (x := (expand .default shapeRoles (methodSample getterMethod)).result) (by decide +kernel)
  obtain ⟨m, unplayed, -, -, hall⟩ := expand_shadows hout
  have htest : testHiders allNoticed shapeRoles (methodSample getterMethod) = true := by
    decide +kernel
  have hmethods := of_testHiders htest m
  simp only [allNoticed, Bool.and_eq_true, Bool.not_eq_true', List.isEmpty_eq_false_iff,
    List.all_eq_true] at hmethods
  obtain ⟨hsome, hnoticed⟩ := hmethods
  refine ⟨m, unplayed, hsome, hall.2 fun x hx => ?_⟩
  exact (Hider.isNoticed_iff (mem_hiders_iff.1 hx).2.2.2.2.1).1 (hnoticed x hx)

/-- A method that yields nothing hides a classifier as well, and nothing is reported. -/
theorem exists_hider_not_reported : ∃ m : Invocation shapeRoles (methodSample unitMethod),
    (expand .default shapeRoles (methodSample unitMethod)).result.isOk = true ∧
    hiders m.base m.roles (markedStructs m.items) m.unmarked ≠ [] ∧
    (expand .default shapeRoles (methodSample unitMethod)).diagnostics = [] := by
  obtain ⟨out, hout⟩ := exists_eq_ok_of_isOk
    (x := (expand .default shapeRoles (methodSample unitMethod)).result) (by decide +kernel)
  obtain ⟨m, -, -, -⟩ := exists_of_expand_eq_ok hout
  have htest : testHiders (fun _ methods => !methods.isEmpty) shapeRoles
      (methodSample unitMethod) = true := by decide +kernel
  refine ⟨m, by rw [hout]; rfl, by simpa using of_testHiders htest m, ?_⟩
  exact List.isEmpty_iff.1 (by decide +kernel)

end Sealed

end DeclSynth
