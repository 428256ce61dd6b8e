import DeclSynth.Proofs.Sealed.Buckets
import DeclSynth.Proofs.Sealed.ReadBack
import DeclSynth.Proofs.Sealed.Visibility

/-!
# Where generated items are seen

`exposed` lists the items of generated code that have a visibility of their own, each with what is
written for it: enums, traits and the methods of a type. Members of a trait have none. In the code
of a hierarchy these are the base, the discriminators, the classifiers and the roles, and all of
them have the visibility that the variants share (`exposed_tokens`, `expand_visibility`).
-/

namespace DeclSynth.Sealed

open Code (Declaration)

/-! ## Items with a visibility -/

/-- An item with a visibility of its own: its name, and what is written for its visibility. -/
structure Exposed where
  name : String
  vis : Tokens

/-- The items that a declaration adds. An implementation of a trait adds none. -/
def exposedBy : Declaration → List Exposed
  | .enum vis name _ _ => [⟨name, vis⟩]
  | .trait vis name _ => [⟨name, vis⟩]
  | .methods _ methods => methods.map fun m => ⟨m.name, m.vis⟩
  | .conversion .. | .comparison .. | .totality .. | .text .. | .implementation .. => []

/-- The items of code that have a visibility of their own. -/
def exposed (code : Tokens) : Option (List Exposed) := (Code.read code).map (·.flatMap exposedBy)

/-! ## The items of a hierarchy -/

/-- A generated item, with the visibility that it is written with. -/
def exposedAs (vis : Visibility) (name : Ident) : Exposed := ⟨name.text, vis.tokens⟩

/-- The names of the generated items that have a visibility of their own, in the order in which
they are written. -/
def Hierarchy.exposedNames (h : Hierarchy) : List Ident :=
  [h.base] ++ h.buckets.map (·.discriminator) ++ h.buckets.map (·.classifier) ++
    h.buckets.flatMap (·.role.toList)

section Bucket

variable (b : Bucket) (vis : Visibility)

/-- Of a discriminator, only itself is added: what it implements adds nothing. -/
theorem exposedBy_discriminatorDeclarations :
    (b.discriminatorDeclarations vis).flatMap exposedBy = [exposedAs vis b.discriminator] := rfl

/-- Of a role, only itself is added: its members' implementations add nothing. -/
theorem exposedBy_roleDeclarations :
    (b.roleDeclarations vis).flatMap exposedBy = b.role.toList.map (exposedAs vis) := by
  unfold Bucket.roleDeclarations
  cases b.role <;> simp [exposedBy, exposedAs]

end Bucket

/-- **All items of a hierarchy are read**, each with the visibility of the hierarchy. -/
theorem exposed_tokens (h : Hierarchy) :
    exposed h.tokens = some (h.exposedNames.map (exposedAs h.vis)) := by
  have hconversions : (h.variants.map fun v =>
      Declaration.conversion v.name.text h.base.text).flatMap exposedBy = [] := by
    simp [exposedBy]
  have hclassifiers : exposedBy (.methods h.base.text (h.buckets.map h.classifierMethod)) =
      (h.buckets.map (·.classifier)).map (exposedAs h.vis) := by
    rw [exposedBy, List.map_map, List.map_map]
    rfl
  rw [exposed, read_tokens, Option.map_some, Hierarchy.declarations, Hierarchy.exposedNames]
  simp only [List.flatMap_append, hconversions, List.flatMap_assoc,
    exposedBy_discriminatorDeclarations, exposedBy_roleDeclarations, List.flatMap_singleton,
    hclassifiers, List.map_append, List.map_flatMap, List.map_map, List.append_nil]
  rw [← List.map_eq_flatMap]
  rfl

/-! ## Sealed modules -/

variable {c : Config} {args item : Tokens}

/-- **Where the generated items of a sealed module are seen.** -/
theorem expand_visibility :
    (∀ variants, IsShared variants (sharedVisibility variants)) ∧
      ∀ out, (expand c args item).result = .ok out →
        ∃ m : Invocation args item, markedStructs m.items ≠ [] →
          ∃ h : Hierarchy,
            (Hierarchy.build c m.base m.roles m.variants m.unmarked).result = .ok h ∧
            out = m.withItems (m.unmarked ++ [.verbatim h.tokens]) ∧
            exposed h.tokens =
              some (h.exposedNames.map (exposedAs (sharedVisibility m.variants))) := by
  refine ⟨isShared_sharedVisibility, fun out hout => ?_⟩
  obtain ⟨m, items, hitems, rfl⟩ := exists_of_expand_eq_ok hout
  refine ⟨m, fun hmarked => ?_⟩
  obtain ⟨h, hbuild, rfl, -⟩ := Invocation.exists_of_sealedItems_eq_ok hitems hmarked
  refine ⟨h, hbuild, rfl, ?_⟩
  obtain ⟨discriminator, classifier, buckets, -, -, -, rfl, -⟩ := build_eq_ok_iff.1 hbuild
  exact exposed_tokens _

/-- `mod shape { #[variant] pub struct Circle(u8); #[variant] pub(crate) struct Blank; }` -/
def mixedSample : Tokens :=
  kw "mod" ++ kw "shape" ++ brace (
    op "#" ++ bracket (kw "variant") ++
      kw "pub" ++ kw "struct" ++ kw "Circle" ++ paren (kw "u8") ++ op ";" ++
    op "#" ++ bracket (kw "variant") ++
      kw "pub" ++ paren (kw "crate") ++ kw "struct" ++ kw "Blank" ++ op ";")

/-- The number of the marked structs of a module, and what they share as it is printed. -/
def sharedText? : Item → Option (Nat × String)
  | .mod _ _ _ _ (some items) =>
    let variants := (markedStructs items).map variantOf
    some (variants.length, visibilityText (sharedVisibility variants))
  | _ => none

/-- A struct that is seen everywhere and one that is seen in the crate: what is generated for them
is seen in the crate. -/
theorem expand_visibility_mixed : ∃ out, (expand .default [] mixedSample).result = .ok out ∧
    ∃ (m : Invocation [] mixedSample) (h : Hierarchy),
      out = m.withItems (m.unmarked ++ [.verbatim h.tokens]) ∧
      visibilityText (sharedVisibility m.variants) = "pub (crate)" ∧
      exposed h.tokens =
        some (h.exposedNames.map (exposedAs (sharedVisibility m.variants))) := by
  obtain ⟨out, hout⟩ := exists_eq_ok_of_isOk
    (x := (expand .default [] mixedSample).result) (by decide +kernel)
  obtain ⟨m, hsealed⟩ := expand_visibility.2 out hout
  have hshared : (Item.parse mixedSample).toOption.bind sharedText? = some (2, "pub (crate)") := by
    decide +kernel
  rw [m.item_eq] at hshared
  obtain ⟨hlength, htext⟩ := Prod.mk.inj (Option.some.inj hshared)
  have hmarked : markedStructs m.items ≠ [] := by
    intro hnone
    simp [hnone] at hlength
  obtain ⟨h, -, hgenerated, hexposed⟩ := hsealed hmarked
  exact ⟨out, hout, m, h, hgenerated, htext, hexposed⟩

end DeclSynth.Sealed
