import DeclSynth.Proofs.Naming.Stem
import DeclSynth.Proofs.Sealed.Classification
import DeclSynth.Proofs.Syntax.Reader
import Mathlib.Data.List.Perm.Basic

/-!
# Names of sealed modules

What a hierarchy's code declares is read back as the names of its types and of its
methods (`perm_declaredTypes`, `mem_declaredMethods`). Under the default
configuration an expansion panics exactly where it comes to a role whose stem does
not begin as names do, and all it declares are names that the language does not
keep for itself, unless the base is given as such a word (`expand_names`).
-/

namespace DeclSynth.Sealed

open Code

/-! ## Declared names -/

namespace Code.Declaration

/-- The types that a declaration declares. -/
def typeNames : Declaration → List String
  | enum _ name _ _ => [name]
  | trait _ name _ => [name]
  | conversion .. | comparison .. | totality .. | text .. | methods .. | implementation .. => []

/-- The methods that a declaration declares. -/
def methodNames : Declaration → List String
  | methods _ ms => ms.map (·.name)
  | trait _ _ method => [method.name]
  | implementation _ _ ms => ms.map (·.name)
  | enum .. | conversion .. | comparison .. | totality .. | text .. => []

end Code.Declaration

/-- The types that code declares. -/
def declaredTypes (code : List Declaration) : List String := code.flatMap (·.typeNames)

/-- The methods that code declares. -/
def declaredMethods (code : List Declaration) : List String := code.flatMap (·.methodNames)

variable {h : Hierarchy} {n : String}

/-- **The types that a hierarchy declares** are those that it checks. -/
theorem perm_declaredTypes (h : Hierarchy) :
    (declaredTypes h.declarations).Perm (h.typeNames.map (·.text)) := by
  have hroles : ∀ b : Bucket, (b.roleDeclarations h.vis).flatMap (·.typeNames) =
      b.role.toList.map (·.text) := by
    intro b
    unfold Bucket.roleDeclarations
    cases b.role <;> simp [Declaration.typeNames]
  -- all discriminators are declared before any role is
  have hparts : declaredTypes h.declarations = h.base.text ::
      (h.buckets.flatMap (fun b => [b.discriminator.text]) ++
        h.buckets.flatMap fun b => b.role.toList.map (·.text)) := by
    unfold declaredTypes
    rw [flatMap_declarations h _ fun _ _ => rfl]
    simp only [hroles]
    simp [Declaration.typeNames, Bucket.discriminatorDeclarations]
  rw [hparts, Hierarchy.typeNames, List.map_cons, List.map_flatMap]
  exact (List.flatMap_append_perm _ _ _).cons _

theorem mem_declaredTypes :
    n ∈ declaredTypes h.declarations ↔ ∃ name ∈ h.typeNames, name.text = n :=
  (perm_declaredTypes h).mem_iff.trans List.mem_map

/-- **The methods that a hierarchy declares** are its classifiers. -/
theorem mem_declaredMethods :
    n ∈ declaredMethods h.declarations ↔ ∃ b ∈ h.buckets, b.classifier.text = n := by
  have hroles : ∀ b : Bucket, ∀ m ∈ (b.roleDeclarations h.vis).flatMap (·.methodNames),
      m = b.classifier.text := by
    intro b m hm
    unfold Bucket.roleDeclarations at hm
    cases hrole : b.role with
    | none => simp [hrole] at hm
    | some role =>
      simp only [hrole, List.flatMap_cons, List.flatMap_map, Declaration.methodNames,
        List.mem_append, List.mem_flatMap, List.mem_singleton] at hm
      rcases hm with rfl | ⟨v, -, hm⟩
      · rfl
      · simpa [Bucket.roleMethod, Bucket.required] using hm
  unfold declaredMethods
  rw [flatMap_declarations h _ fun _ _ => rfl]
  simp only [Declaration.methodNames, Bucket.discriminatorDeclarations, List.nil_append,
    List.flatMap_cons, List.flatMap_nil, List.append_nil, List.mem_append, List.mem_map,
    List.mem_flatMap, exists_exists_and_eq_and]
  constructor
  · rintro ((⟨b, -, hn⟩ | ⟨b, hb, rfl⟩) | ⟨b, hb, hn⟩)
    · exact absurd hn List.not_mem_nil
    · exact ⟨b, hb, rfl⟩
    · exact ⟨b, hb, (hroles b n (List.mem_flatMap.2 hn)).symm⟩
  · rintro ⟨b, hb, rfl⟩
    exact .inl (.inr ⟨b, hb, rfl⟩)

/-! ## Legal names -/

/-- A name that the language does not keep for itself. -/
structure Legal (name : String) : Prop where
  isName : Ident.isName name = true
  free : Ident.isReserved name = false

theorem Legal.of_ident {i : Ident} (h : Ident.isReserved i.text = false) : Legal i.text :=
  ⟨i.valid, h⟩

/-- A name that ends like no reserved word is none. -/
theorem not_isReserved_append {tail : String}
    (h : ∀ w ∈ Ident.reserved, ¬ tail.toList <:+ w.toList) (text : String) :
    Ident.isReserved (text ++ tail) = false := by
  rw [Naming.append_eq_ofList]
  exact Naming.not_mem_of_suffix h text.toList

/-- What a mark lists are no reserved words. -/
theorem not_isReserved_of_mem_listed {a : Attribute} {role : Ident} (h : role ∈ listed a) :
    Ident.isReserved role.text = false := by
  unfold listed Variant.listedRoles at h
  cases hform : a.form with
  | path => simp [hform, Except.toOption] at h
  | list body closing =>
    rw [hform] at h
    dsimp only at h
    cases hlist : parseWith (fun _ => Parser.commaSeparated Parser.ident) closing body with
    | error e => simp [hlist, Except.toOption] at h
    | ok list =>
      simp only [hlist, Except.toOption, Option.getD_some] at h
      exact Parser.of_parseWith (P := fun l => ∀ v ∈ l.values, Ident.isReserved v.text = false)
        hlist (Parser.yields_commaSeparated Parser.yields_ident) role h
  | nameValue span value => simp [hform, Except.toOption] at h

/-- A role that a variant plays is no reserved word. -/
theorem not_isReserved_of_played {structs : List StructItem} {role : Ident}
    (h : Played (structs.map variantOf) role) : Ident.isReserved role.text = false := by
  obtain ⟨v, hv, hplays⟩ := h
  obtain ⟨s, -, rfl⟩ := List.mem_map.1 hv
  obtain ⟨r, hr, hsame⟩ := List.any_eq_true.1 hplays
  obtain ⟨a, -, hlisted⟩ := List.mem_flatMap.1 hr
  rw [Ident.sameName_iff.1 hsame]
  exact not_isReserved_of_mem_listed hlisted

theorem not_isReserved_of_fragment {text setting value wanted : String} {i : Ident}
    (h : Config.fragment Ident.parse text setting value wanted = .ok i) :
    Ident.isReserved i.text = false := by
  unfold Config.fragment at h
  split at h
  · rename_i hparse
    cases h
    obtain ⟨ts, -, hparse⟩ := Option.map_eq_some_iff.1 hparse
    exact Parser.not_isReserved_of_parse hparse
  · cases h

/-- **A base that is a reserved word was given as one.** -/
theorem given_of_isReserved {l : ArgumentList} {name base : Ident} (h : baseOf l name = .ok base)
    (hbase : Ident.isReserved base.text = true) : l.ident "base" = .ok (some base) := by
  unfold baseOf at h
  split at h
  · cases h
  · rename_i hgiven
    cases h
    exact hgiven
  · split at h
    · rename_i hident
      cases h
      obtain ⟨ts, -, hparse⟩ := Option.bind_eq_some_iff.1 hident
      cases hok : Ident.parse ts with
      | error e => simp [hok, Except.toOption] at hparse
      | ok i =>
        simp only [hok, Except.toOption, Option.some.injEq] at hparse
        subst hparse
        exact absurd hbase (by simp [Parser.not_isReserved_of_parse hok])
    · cases h

/-- **All that a built hierarchy declares is legal, but for the base.** -/
theorem legal_of_build {c : Config} {base : Ident} {roles : List Ident} {structs : List StructItem}
    {items : List Item}
    (hbuild : (Hierarchy.build c base roles (structs.map variantOf) items).result = .ok h)
    (hsuffix : ∀ w ∈ Ident.reserved, ¬ c.sealedSuffix.toList <:+ w.toList) :
    (∀ n ∈ declaredTypes h.declarations, n = base.text ∨ Legal n) ∧
      ∀ n ∈ declaredMethods h.declarations, Legal n := by
  obtain ⟨discriminator, classifier, buckets, hdiscriminator, hclassifier, hbuckets, rfl, -⟩ :=
    build_eq_ok_iff.1 hbuild
  have hbucket : ∀ b ∈ buckets, Legal b.discriminator.text ∧ Legal b.classifier.text ∧
      ∀ role ∈ b.role, Legal role.text := by
    intro b hb
    -- the group of all variants is named by the configuration, the others after their roles
    rcases mem_of_addRoles_eq_ok hbuckets hb with hb | ⟨role, -, hplayed, hbucket⟩
    · rw [List.mem_singleton.1 hb]
      exact ⟨.of_ident (not_isReserved_of_fragment hdiscriminator),
        .of_ident (not_isReserved_of_fragment hclassifier), nofun⟩
    · refine ⟨.of_ident ?_, .of_ident ?_, ?_⟩
      · rw [hbucket.discriminator_text]
        exact not_isReserved_append hsuffix _
      · rw [hbucket.classifier_text]
        exact not_isReserved_append (by decide) _
      · rw [hbucket.role_eq]
        rintro _ ⟨⟩
        exact .of_ident (not_isReserved_of_played hplayed)
  refine ⟨fun n hn => ?_, fun n hn => ?_⟩
  · obtain ⟨name, hname, rfl⟩ := mem_declaredTypes.1 hn
    rcases List.mem_cons.1 hname with rfl | hname
    · exact .inl rfl
    · obtain ⟨b, hb, hname⟩ := List.mem_flatMap.1 hname
      rcases List.mem_cons.1 hname with rfl | hname
      · exact .inr (hbucket b hb).1
      · exact .inr ((hbucket b hb).2.2 name (Option.mem_toList.1 hname))
  · obtain ⟨b, hb, rfl⟩ := mem_declaredMethods.1 hn
    exact (hbucket b hb).2.1

/-! ## Sealed modules -/

/-- A base that is given is the base. -/
theorem base_eq_of_given {l : ArgumentList} {name base given : Ident} (h : baseOf l name = .ok base)
    (hgiven : l.ident "base" = .ok (some given)) : base = given := by
  unfold baseOf at h
  rw [hgiven] at h
  exact (Except.ok.inj h).symm

/-- What code declares is legal where the base is. -/
theorem legal_iff_of_build {args item : Tokens} {m : Invocation args item} {c : Config}
    (hbuild : (Hierarchy.build c m.base m.roles m.variants m.unmarked).result = .ok h)
    (hsuffix : ∀ w ∈ Ident.reserved, ¬ c.sealedSuffix.toList <:+ w.toList) :
    (∀ n ∈ declaredTypes h.declarations ++ declaredMethods h.declarations, Legal n) ↔
      ¬ ∃ given, m.list.ident "base" = .ok (some given) ∧ Ident.isReserved given.text = true := by
  obtain ⟨htypes, hmethods⟩ := legal_of_build hbuild hsuffix
  constructor
  · rintro hlegal ⟨given, hgiven, hreserved⟩
    have hbase := base_eq_of_given m.base_eq hgiven
    have hmem : given.text ∈ declaredTypes h.declarations := by
      rw [← hbase, ← (build_eq_ok hbuild).base_eq]
      exact mem_declaredTypes.2 ⟨h.base, List.mem_cons_self, rfl⟩
    have := (hlegal _ (List.mem_append_left _ hmem)).free
    exact absurd hreserved (by simp [this])
  · intro hgiven n hn
    rcases List.mem_append.1 hn with hn | hn
    · rcases htypes n hn with rfl | hlegal
      · refine .of_ident (Bool.eq_false_iff.2 fun hreserved => hgiven ?_)
        exact ⟨m.base, given_of_isReserved m.base_eq hreserved, hreserved⟩
      · exact hlegal
    · exact hmethods n hn

/-- **Where sealing a module panics, and what it names.** Under the default configuration it panics
exactly where it comes to a role whose stem does not begin as names do; and all it declares is
legal, unless the base is given as a word that the language keeps for itself. -/
theorem expand_names (args item : Tokens) :
    ((∃ fault, (expand .default args item).result = .error (.panic fault)) ↔
      ∃ (m : Invocation args item) (role : Ident), m.ComesTo .default role ∧
        Naming.Nameable (Naming.roleStem role.text m.base.text) = false) ∧
    ∀ out, (expand .default args item).result = .ok out → ∃ m : Invocation args item,
      (markedStructs m.items = [] → out = m.withItems m.unmarked) ∧
      (markedStructs m.items ≠ [] → ∃ generated code,
        out = m.withItems (m.unmarked ++ [.verbatim generated]) ∧ read generated = some code ∧
        ((∀ name ∈ declaredTypes code ++ declaredMethods code, Legal name) ↔
          ¬ ∃ given, m.list.ident "base" = .ok (some given) ∧
            Ident.isReserved given.text = true)) := by
  refine ⟨?_, fun out hout => ?_⟩
  · rw [expand_panics_iff]
    have hnames : ∀ base role : Ident, ¬ DerivesNames Config.default.sealedSuffix base role ↔
        Naming.Nameable (Naming.roleStem role.text base.text) = false := fun base role =>
      (not_congr (Naming.isName_derived_iff role base.text)).trans (by simp)
    simp only [hnames]
  · obtain ⟨m, items, hitems, rfl⟩ := exists_of_expand_eq_ok hout
    obtain ⟨-, hnone, hsealed⟩ := Invocation.sealedItems_eq_ok hitems
    refine ⟨m, fun hmarked => by rw [hnone hmarked], fun hmarked => ?_⟩
    obtain ⟨h, hbuild, rfl⟩ := hsealed hmarked
    exact ⟨h.tokens, h.declarations, rfl, read_tokens h, legal_iff_of_build hbuild (by decide)⟩

/-- Structs are marked in the sample. -/
theorem marked_shape (m : Invocation shapeRoles shapeSample) : markedStructs m.items ≠ [] := by
  have hmarked : (Item.parse shapeSample).toOption.any hasVariants = true := by decide +kernel
  rw [m.item_eq] at hmarked
  simp only [Except.toOption, Option.any_some, hasVariants, Bool.and_eq_true, Bool.not_eq_true',
    List.isEmpty_eq_false_iff] at hmarked
  exact hmarked.1

/-- Whether an argument list gives no base. -/
def givesNoBase (l : ArgumentList) : Bool := (l.get? "base").isNone

/-- A module with a struct that plays a role declares legal names. -/
theorem expand_names_shape : ∃ (m : Invocation shapeRoles shapeSample) (generated : Tokens)
    (code : List Declaration),
    (expand .default shapeRoles shapeSample).result =
      .ok (m.withItems (m.unmarked ++ [.verbatim generated])) ∧
    read generated = some code ∧
    ∀ name ∈ declaredTypes code ++ declaredMethods code, Legal name := by
  obtain ⟨out, hout⟩ := exists_eq_ok_of_isOk
    (x := (expand .default shapeRoles shapeSample).result) (by decide +kernel)
  obtain ⟨m, -, hsealed⟩ := (expand_names shapeRoles shapeSample).2 out hout
  have hgives : (ArgumentList.parse shapeRoles).toOption.any givesNoBase = true := by
    decide +kernel
  rw [m.list_eq] at hgives
  simp only [Except.toOption, Option.any_some, givesNoBase, Option.isNone_iff_eq_none] at hgives
  obtain ⟨generated, code, rfl, hread, hlegal⟩ := hsealed (marked_shape m)
  refine ⟨m, generated, code, hout, hread, hlegal.2 ?_⟩
  rintro ⟨given, hgiven, -⟩
  simp [ArgumentList.ident, ArgumentList.path, ArgumentList.value?, hgives] at hgiven

/-- `mod shape { #[variant(_1Round)] struct Circle(u8); }` -/
def digitSample : Tokens :=
  kw "mod" ++ kw "shape" ++ brace (
    op "#" ++ bracket (kw "variant" ++ paren (kw "_1Round")) ++
      kw "struct" ++ kw "Circle" ++ paren (kw "u8") ++ op ";")

/-- `roles = [_1Round]` -/
def digitRoles : Tokens := kw "roles" ++ op "=" ++ bracket (kw "_1Round")

/-- A role that begins with a digit behind its underscore makes an expansion panic: no type can be
named `1RoundSealedType`. -/
theorem exists_panic_digit :
    ∃ fault, (expand .default digitRoles digitSample).result = .error (.panic fault) :=
  Outcome.panics_iff.1 (by decide +kernel)

end DeclSynth.Sealed
