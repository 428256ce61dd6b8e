import DeclSynth.Proofs.StoredFields.Accessors
import Mathlib.Data.List.Perm.Basic

/-!
# The names of accessors

A getter is named like its field and a setter has `set_` before that, without the mark of a raw
name. Setters are apart from each other where the fields are, and so are getters, but a getter
may meet a setter: the one of a field `set_a` and the one of a field `a`. The names of all
accessors are apart exactly where no two marked fields stand in that way
(`nodup_names_iff`, `expand_accessorNames`); nothing keeps a struct from having them
(`exists_doubled`).
-/

namespace DeclSynth

/-- What stands before the name of a field in the name of its setter. -/
def setterPrefix : String := "set_"

/-- Nothing that starts like a setter is a raw name. -/
theorem Ident.plainText_of_setter {i : Ident} {name : String} (h : i.text = setterPrefix ++ name) :
    i.plainText = setterPrefix ++ name := by
  have hprefix : setterPrefix.toList = 's' :: "et_".toList := rfl
  rw [plainText, h, dropRaw_append hprefix (by decide)]

/-- The names of the fields of a struct that leave it, without the marks of raw names. -/
def StructItem.markedNames (s : StructItem) : List String :=
  (s.fields.toList.filter Field.isMarked).filterMap fun f => f.name.map Ident.plainText

namespace AccessorPair

variable {runtime : Path} {store : Expr} {pairs : List AccessorPair}

/-- The names of the getter and of the setter, as names are compared. -/
def names (p : AccessorPair) : List String := [p.getter.name.plainText, p.setter.name.plainText]

/-- **Both names come from the name of the field.** -/
theorem Fits.names_eq {p : AccessorPair} (h : p.Fits runtime store) :
    ∃ name, p.field.name.map Ident.plainText = some name ∧
      p.names = [name, setterPrefix ++ name] := by
  obtain ⟨name, hname, hsetter⟩ := h.setter.name
  have hgetter : name = p.getter.name := Option.some.inj (hname.symm.trans h.getter.name)
  refine ⟨name.plainText, by rw [hname, Option.map_some], ?_⟩
  rw [names, ← hgetter, Ident.plainText_of_setter hsetter]

theorem flatMap_names (h : ∀ p ∈ pairs, p.Fits runtime store) :
    pairs.flatMap names =
      ((pairs.map (·.field)).filterMap fun f => f.name.map Ident.plainText).flatMap
        fun name => [name, setterPrefix ++ name] := by
  induction pairs with
  | nil => rfl
  | cons p rest ih =>
    obtain ⟨hp, hrest⟩ := List.forall_mem_cons.1 h
    obtain ⟨name, hname, hnames⟩ := hp.names_eq
    rw [List.map_cons,
      List.filterMap_cons_some (f := fun f : Field => f.name.map Ident.plainText) hname,
      List.flatMap_cons, List.flatMap_cons, hnames, ih hrest]

/-- **Names and names of setters are apart** exactly if the names are and none of them is that of a
setter. -/
theorem nodup_names_iff {names : List String} :
    (names.flatMap fun name => [name, setterPrefix ++ name]).Nodup ↔
      names.Nodup ∧ ∀ name ∈ names, setterPrefix ++ name ∉ names := by
  have hperm : (names ++ names.map (setterPrefix ++ ·)).Perm
      (names.flatMap fun name => [name, setterPrefix ++ name]) := by
    simpa [List.map_eq_flatMap (l := names) (f := (setterPrefix ++ ·))] using
      List.map_append_flatMap_perm names id fun name => [setterPrefix ++ name]
  have hsetters : (names.map (setterPrefix ++ ·)).Nodup ↔ names.Nodup :=
    List.nodup_map_iff fun a b h => by simpa using h
  rw [← hperm.nodup_iff, List.nodup_append, hsetters]
  constructor
  · rintro ⟨hnames, -, hapart⟩
    exact ⟨hnames, fun name hname hmet => hapart _ hmet _ (List.mem_map_of_mem hname) rfl⟩
  · rintro ⟨hnames, hapart⟩
    refine ⟨hnames, hnames, fun a ha b hb hab => ?_⟩
    obtain ⟨name, hname, rfl⟩ := List.mem_map.1 hb
    exact hapart name hname (hab ▸ ha)

end AccessorPair

namespace StoredAccess

variable {c : Config} {args item out : Tokens}

/-- **The names of all accessors are apart** exactly if those of the marked fields are and none of
these is named like the setter of another one. -/
theorem expand_accessorNames (h : (expand c args item).result = .ok out) :
    ∃ (x : Expansion c args item out) (pairs : List AccessorPair),
      pairs.map (·.field) = x.subject.fields.toList.filter Field.isMarked ∧
      (∀ p ∈ pairs, p.Fits x.runtime x.store) ∧
      out = x.access.remainder.tokens ++
        implementation x.subject.generics none x.subject.name
          (pairs.flatMap AccessorPair.tokens) ∧
      ((pairs.flatMap AccessorPair.names).Nodup ↔
        x.subject.markedNames.Nodup ∧
          ∀ name ∈ x.subject.markedNames, setterPrefix ++ name ∉ x.subject.markedNames) := by
  obtain ⟨x⟩ := exists_expansion h
  obtain ⟨hruntime, fs, trailing, hdivides⟩ := x.divides
  obtain ⟨pairs, hleft, hfits, htokens⟩ := AccessorPair.exists_pairs x.runtime hdivides.stored
  have hfields : x.subject.fields.toList = fs := by
    rw [hdivides.fields]
    rfl
  refine ⟨x, pairs, by rw [hleft, hfields], hfits, ?_, ?_⟩
  · rw [htokens, ← hruntime]
    refine x.out_eq.trans ?_
    rw [StoredAccess.tokens, hdivides.remainder]
  · rw [AccessorPair.flatMap_names hfits, hleft, ← hfields]
    exact AccessorPair.nodup_names_iff

/-- The accessors of `volume` and `theme` have four names. -/
theorem expand_accessorNames_settings : ∃ (out : Tokens)
    (x : Expansion .default [] settingsSample out) (pairs : List AccessorPair),
      (expand .default [] settingsSample).result = .ok out ∧
      x.subject.markedNames = ["volume", "theme"] ∧
      (∀ p ∈ pairs, p.Fits x.runtime x.store) ∧
      (pairs.flatMap AccessorPair.names).Nodup := by
  obtain ⟨out, hout⟩ := exists_eq_ok_of_isOk
    (x := (expand .default [] settingsSample).result) (by decide +kernel)
  obtain ⟨x, pairs, -, hfits, -, hnodup⟩ := expand_accessorNames hout
  have hsample : (structOf? settingsSample).map StructItem.markedNames =
      some ["volume", "theme"] := by
    decide +kernel
  have hnames : x.subject.markedNames = ["volume", "theme"] := by
    rw [structOf?, x.parse_eq] at hsample
    exact Option.some.inj hsample
  refine ⟨out, x, pairs, hout, hnames, hfits, hnodup.2 ?_⟩
  rw [hnames]
  decide

/-- `struct S { #[stored(default_value = 1)] a: u32, #[stored(default_value = 2)] set_a: u32 }` -/
def doubledSample : Tokens :=
  let field (name : Tokens) (value : String) :=
    op "#" ++ bracket (kw "stored" ++ paren (kw "default_value" ++ op "=" ++ lit value)) ++
      name ++ op ":" ++ kw "u32"
  kw "struct" ++ kw "S" ++ brace (field (kw "a") "1" ++ op "," ++ field (kw "set_a") "2")

/-- The names of the accessors that a struct is expanded to. -/
def declaredAccessors (item : Tokens) : Option (List String) :=
  (expand .default [] item).result.toOption.bind fun out =>
    (functionsOf out).map (·.map (·.name))

/-- A struct with fields of different names, two accessors of which have the same name. -/
theorem exists_doubled :
    (structOf? doubledSample).map (·.fields.toList.map (·.name.map Ident.text)) =
        some [some "a", some "set_a"] ∧
      declaredAccessors doubledSample = some ["a", "set_a", "set_a", "set_set_a"] :=
  ⟨by decide +kernel, by decide +kernel⟩

end StoredAccess

end DeclSynth
