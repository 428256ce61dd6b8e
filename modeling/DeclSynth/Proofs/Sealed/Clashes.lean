import DeclSynth.Proofs.Sealed.Names

/-!
# Names that are taken

The types that are generated for a module join its own items, and the classifiers
join the base's own methods. A `Clash` is a name that both sides have, however it
is spelled. An expansion that succeeds has looked for clashes among the items that
define something and among the functions of the base, and compared the texts of
names; a clash that is left is `Overlooked` (`expand_clashes`).
-/

namespace DeclSynth

/-! ## Names that items introduce -/

mutual

/-- The names that a use tree brings in; `self` stands for the name before it. -/
def UseTree.introduced (parent : Option Ident) : UseTree → List String
  | .path name tree => tree.introduced (some name)
  | .name name => if name.text = "self" then parent.toList.map (·.text) else [name.text]
  | .rename _ newName => if newName.text = "_" then [] else [newName.text]
  | .glob => []
  | .group trees _ => introducedByEach parent trees

/-- The names that use trees bring in. -/
def introducedByEach (parent : Option Ident) : List UseTree → List String
  | [] => []
  | t :: rest => t.introduced parent ++ introducedByEach parent rest

end

/-- The words that begin a foreign item, before its name. -/
def foreignKinds : List String := ["fn", "static", "type"]

/-- The names that a block of foreign items declares. -/
def foreignNames : Tokens → List String
  | .word "static" _ :: .word "mut" _ :: .word name _ :: rest => name :: foreignNames rest
  | .word kind _ :: .word name span :: rest =>
    if foreignKinds.contains kind then name :: foreignNames rest
    else foreignNames (.word name span :: rest)
  | _ :: rest => foreignNames rest
  | [] => []
termination_by ts => ts.length

/-- The names that an item introduces into its module, as they are spelled; what a glob or a macro
call brings in is not known. -/
def Item.introduced : Item → List String
  | .use _ _ _ tree => tree.introduced none
  | .externCrate _ name newName _ =>
    let given := newName.getD name
    if given.text = "_" then [] else [given.text]
  | .foreign _ _ body => foreignNames body
  | item => item.name?.toList.map (·.text)

/-- An item that defines something introduces its name. -/
theorem Item.introduced_of_name? {item : Item} {name : Ident} (h : item.name? = some name) :
    item.introduced = [name.text] := by
  cases item <;> simp_all [Item.introduced, Item.name?]

/-- A type that is a name, or a path that ends in it, perhaps between parentheses. -/
inductive Ty.IsNamed (name : Ident) : Ty → Prop
  | path {span : Span} {p : Path} {s : Segment} (last : p.segments.getLast? = some s)
      (same : s.name.plainText = name.plainText) : IsNamed name (.path span none p)
  | paren {span : Span} {ty : Ty} (inner : IsNamed name ty) : IsNamed name (.paren span ty)
  | group {span : Span} {ty : Ty} (inner : IsNamed name ty) : IsNamed name (.group span ty)

/-- The name of a member, if it is a function or a constant. -/
def Member.valueName? : Member → Option Ident
  | fn _ _ _ sig _ => some sig.name
  | const _ name _ => some name
  | type .. | macroCall .. | verbatim _ => none

namespace Sealed

open Code

variable {code : List Declaration} {base : Ident} {items : List Item} {h : Hierarchy}

/-- Two spellings of one name. -/
def SameName (a b : String) : Prop := Ident.dropRaw a = Ident.dropRaw b

/-- A name that is generated and that the module's own items have too. -/
inductive Clash (code : List Declaration) (base : Ident) (items : List Item) : Prop
  /-- An item introduces the name of a type. -/
  | type {item : Item} {own generated : String} (mem : item ∈ items)
      (introduced : own ∈ item.introduced) (declared : generated ∈ declaredTypes code)
      (same : SameName own generated)
  /-- An implementation of the base declares a function or a constant with the name of a
  classifier. -/
  | method {i : ImplItem} {member : Member} {own : Ident} {generated : String}
      (mem : Item.impl i ∈ items) (inherent : i.traitPath = none)
      (ofBase : i.selfTy.IsNamed base) (member_mem : member ∈ i.members)
      (name_eq : member.valueName? = some own) (declared : generated ∈ declaredMethods code)
      (same : SameName own.text generated)

/-- A clash that is not looked for. -/
inductive Overlooked (code : List Declaration) (base : Ident) (items : List Item) : Prop
  /-- What introduces the name defines nothing: it is a `use`, an `extern crate` or a foreign
  block. -/
  | imported {item : Item} {own generated : String} (mem : item ∈ items)
      (undefined : item.name? = none) (introduced : own ∈ item.introduced)
      (declared : generated ∈ declaredTypes code) (same : SameName own generated)
  /-- One of the two names is raw. -/
  | spelled {item : Item} {own : Ident} {generated : String} (mem : item ∈ items)
      (name_eq : item.name? = some own) (declared : generated ∈ declaredTypes code)
      (same : SameName own.text generated) (other : own.text ≠ generated)
  /-- The name belongs to a constant of the base. -/
  | constant {i : ImplItem} {attributes : List Attribute} {own : Ident} {tokens : Tokens}
      {generated : String} (mem : Item.impl i ∈ items) (inherent : i.traitPath = none)
      (ofBase : i.selfTy.IsNamed base) (member_mem : .const attributes own tokens ∈ i.members)
      (declared : generated ∈ declaredMethods code) (same : SameName own.text generated)
  /-- It belongs to a function of the base, and one of the two names is raw or the implementation
  spells the base otherwise. -/
  | method {i : ImplItem} {member : Member} {own : Ident} {generated : String}
      (mem : Item.impl i ∈ items) (inherent : i.traitPath = none)
      (ofBase : i.selfTy.IsNamed base) (member_mem : member ∈ i.members)
      (name_eq : member.fnName? = some own) (declared : generated ∈ declaredMethods code)
      (same : SameName own.text generated)
      (other : own.text ≠ generated ∨ i.selfTy.endsIn base = false)

/-! ## What is looked for -/

/-- No item that defines something has the name of a generated type. -/
theorem ne_of_checkTypes (hcheck : h.checkTypes items = .ok ()) {item : Item} {name : Ident}
    (hitem : item ∈ items) (hname : item.name? = some name) :
    name.text ∉ declaredTypes h.declarations := by
  intro hmem
  obtain ⟨generated, hgenerated, hsame⟩ := mem_declaredTypes.1 hmem
  exact (checkTypes_eq_ok hcheck).2 item hitem name hname generated hgenerated hsame

/-- No function of an implementation that spells the base as it is has the name of a classifier. -/
theorem ne_of_checkMethods (hcheck : h.checkMethods items = .ok ()) {i : ImplItem}
    {member : Member} {name : Ident} (hi : i ∈ Item.inherentImpls items h.base)
    (hmember : member ∈ i.members) (hname : member.fnName? = some name) :
    name.text ∉ declaredMethods h.declarations := by
  intro hmem
  obtain ⟨b, hb, hsame⟩ := mem_declaredMethods.1 hmem
  exact checkMethods_eq_ok hcheck i hi member hmember name hname b hb hsame

theorem mem_inherentImpls {i : ImplItem} (hi : Item.impl i ∈ items) (htrait : i.traitPath = none)
    (hself : i.selfTy.endsIn base = true) : i ∈ Item.inherentImpls items base :=
  List.mem_filterMap.2 ⟨.impl i, hi, by simp [htrait, hself]⟩

/-! ## What is overlooked -/

/-- What is overlooked is a clash. -/
theorem Overlooked.clash (ho : Overlooked code base items) : Clash code base items := by
  cases ho with
  | imported mem _ introduced declared same => exact .type mem introduced declared same
  | spelled mem name_eq declared same _ =>
    refine .type mem ?_ declared same
    rw [Item.introduced_of_name? name_eq]
    exact List.mem_singleton_self _
  | constant mem inherent ofBase member_mem declared same =>
    exact .method mem inherent ofBase member_mem rfl declared same
  | @method _ member _ _ mem inherent ofBase member_mem name_eq declared same _ =>
    refine .method mem inherent ofBase member_mem ?_ declared same
    cases member <;> simp_all [Member.fnName?, Member.valueName?]

/-- **A clash that is left was overlooked.** -/
theorem Clash.overlooked (htypes : h.checkTypes items = .ok ())
    (hmethods : h.checkMethods items = .ok ()) (hc : Clash h.declarations h.base items) :
    Overlooked h.declarations h.base items := by
  cases hc with
  | @type item own generated mem introduced declared same =>
    cases hname : item.name? with
    | none => exact .imported mem hname introduced declared same
    | some name =>
      rw [Item.introduced_of_name? hname, List.mem_singleton] at introduced
      subst introduced
      refine .spelled mem hname declared same fun heq => ?_
      exact ne_of_checkTypes htypes mem hname (heq ▸ declared)
  | @method i member own generated mem inherent ofBase member_mem name_eq declared same =>
    cases member with
    | fn attributes vis defaultWord sig body =>
      cases name_eq
      refine .method mem inherent ofBase member_mem rfl declared same ?_
      -- the check compares where the implementation spells the base as it is
      by_cases hself : i.selfTy.endsIn h.base = true
      · refine .inl fun heq => ?_
        exact ne_of_checkMethods hmethods (mem_inherentImpls mem inherent hself) member_mem rfl
          (heq ▸ declared)
      · exact .inr (Bool.not_eq_true _ ▸ hself)
    | const attributes name tokens =>
      cases name_eq
      exact .constant mem inherent ofBase member_mem declared same
    | type _ _ | macroCall _ _ | verbatim _ => cases name_eq

/-- **What a sealed module is checked for.** Nothing is generated for a module without variants.
Where it has some, no item that defines something has the text of a generated type, and no function
of the base that of a classifier; and of all names that the module's own items have in common with
what is generated, exactly the overlooked ones are left. -/
theorem expand_clashes {c : Config} {args item out : Tokens}
    (hout : (expand c args item).result = .ok out) : ∃ m : Invocation args item,
    (markedStructs m.items = [] → out = m.withItems m.unmarked) ∧
    (markedStructs m.items ≠ [] → ∃ generated code,
      out = m.withItems (m.unmarked ++ [.verbatim generated]) ∧ read generated = some code ∧
      (∀ item ∈ m.unmarked, ∀ name ∈ item.name?, name.text ∉ declaredTypes code) ∧
      (∀ i ∈ Item.inherentImpls m.unmarked m.base, ∀ member ∈ i.members, ∀ name ∈ member.fnName?,
        name.text ∉ declaredMethods code) ∧
      (¬ Clash code m.base m.unmarked ↔ ¬ Overlooked code m.base m.unmarked)) := by
  obtain ⟨m, items, hitems, rfl⟩ := exists_of_expand_eq_ok hout
  obtain ⟨-, hnone, hsealed⟩ := Invocation.sealedItems_eq_ok hitems
  refine ⟨m, fun hmarked => by rw [hnone hmarked], fun hmarked => ?_⟩
  obtain ⟨h, hbuild, rfl⟩ := hsealed hmarked
  obtain ⟨-, -, -, -, -, -, -, htypes, hmethods⟩ := build_eq_ok_iff.1 hbuild
  have hbase : h.base = m.base := (build_eq_ok hbuild).base_eq
  refine ⟨h.tokens, h.declarations, rfl, read_tokens h, fun _ hitem _ hname =>
    ne_of_checkTypes htypes hitem hname, ?_, ?_⟩
  · rw [← hbase]
    exact fun i hi member hmember name hname => ne_of_checkMethods hmethods hi hmember hname
  · rw [← hbase]
    exact not_congr ⟨Clash.overlooked htypes hmethods, Overlooked.clash⟩

/-- A module with a struct that plays a role is checked. -/
theorem expand_clashes_shape : ∃ (m : Invocation shapeRoles shapeSample) (generated : Tokens)
    (code : List Declaration),
    (expand .default shapeRoles shapeSample).result =
      .ok (m.withItems (m.unmarked ++ [.verbatim generated])) ∧ read generated = some code ∧
    (¬ Clash code m.base m.unmarked ↔ ¬ Overlooked code m.base m.unmarked) := by
  obtain ⟨out, hout⟩ := exists_eq_ok_of_isOk
    (x := (expand .default shapeRoles shapeSample).result) (by decide +kernel)
  obtain ⟨m, -, hsealed⟩ := expand_clashes hout
  obtain ⟨generated, code, rfl, hread, -, -, hclash⟩ := hsealed (marked_shape m)
  exact ⟨m, generated, code, hout, hread, hclash⟩

/-- `mod shape { use other::Shape; #[variant] struct Circle(u8); }` -/
def importSample : Tokens :=
  kw "mod" ++ kw "shape" ++ brace (
    kw "use" ++ kw "other" ++ op "::" ++ kw "Shape" ++ op ";" ++
    op "#" ++ bracket (kw "variant") ++ kw "struct" ++ kw "Circle" ++ paren (kw "u8") ++ op ";")

/-- Whether an item is a module with variants that itself introduces the name of its base. -/
def introducesBase : Item → Bool
  | .mod _ _ _ name (some items) => !(markedStructs items).isEmpty &&
      (baseOf ⟨[], .callSite⟩ name).toOption.any fun base =>
        (items.map unmarked).any fun item => item.introduced.contains base.text
  | _ => false

/-- A module that imports a type with the name of its base is sealed all the same. -/
theorem exists_clash_imported : ∃ (m : Invocation [] importSample) (generated : Tokens)
    (code : List Declaration),
    (expand .default [] importSample).result =
      .ok (m.withItems (m.unmarked ++ [.verbatim generated])) ∧ read generated = some code ∧
    Clash code m.base m.unmarked := by
  obtain ⟨out, hout⟩ := exists_eq_ok_of_isOk
    (x := (expand .default [] importSample).result) (by decide +kernel)
  obtain ⟨m, items, hitems, rfl⟩ := exists_of_expand_eq_ok hout
  have hbase : (Item.parse importSample).toOption.any introducesBase = true := by decide +kernel
  have hlist : m.list = ⟨[], .callSite⟩ := (Except.ok.inj m.list_eq).symm
  rw [m.item_eq] at hbase
  simp only [Except.toOption, Option.any_some, introducesBase, ← hlist, m.base_eq,
    Bool.and_eq_true, Bool.not_eq_true', List.isEmpty_eq_false_iff] at hbase
  obtain ⟨hmarked, hintroduced⟩ := hbase
  obtain ⟨h, hbuild, rfl⟩ := (Invocation.sealedItems_eq_ok hitems).2.2 hmarked
  obtain ⟨item, hitem, hown⟩ := List.any_eq_true.1 hintroduced
  refine ⟨m, h.tokens, h.declarations, hout, read_tokens h, ?_⟩
  exact .type hitem (List.contains_iff_mem.1 hown) (mem_declaredTypes.2 ⟨h.base, List.mem_cons_self,
    congrArg Ident.text (build_eq_ok hbuild).base_eq⟩) rfl

end Sealed

end DeclSynth
