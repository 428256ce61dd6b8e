import DeclSynth.Expansion.Sealed.Hierarchy

/-!
# The visibility that variants share

Visibilities are compared as they are printed, which is enough: how far one reaches is told by
its text (`Visibility.reach_eq`). The visibility that some variants share is no wider than that
of any of them, is theirs where they are printed alike, and depends only on which texts occur
(`isShared_sharedVisibility`).
-/

namespace DeclSynth

/-! ## Reach -/

/-- How far something is seen. -/
inductive Reach where
  /-- Not beyond the module around it. -/
  | here
  /-- In a module further out, which a path names. -/
  | path
  | crate
  | everywhere
deriving DecidableEq, Repr

/-- The place of a reach among the others, from the narrowest to the widest. -/
def Reach.rank : Reach → Nat
  | here => 0
  | path => 1
  | crate => 2
  | everywhere => 3

namespace Visibility

/-- How far a visibility reaches. `pub(self)` says the same as nothing. -/
def reach : Visibility → Reach
  | inherited => .here
  | everywhere => .everywhere
  | restricted false false [name] =>
    if name.text = "self" then .here else if name.text = "crate" then .crate else .path
  | restricted .. => .path

/-- Whether a visibility is no wider than another one. Paths are not followed: of two visibilities
with paths, one is no wider only if it is printed like the other one. -/
def NoWider (a b : Visibility) : Prop :=
  a.reach.rank ≤ b.reach.rank ∧
    (a.reach = .path → b.reach = .path → Sealed.visibilityText a = Sealed.visibilityText b)

/-! ## Texts -/

/-- The tokens between the parentheses of a restricted visibility. -/
def scopeTokens (inWord leadingColon : Bool) (path : List Ident) : Tokens :=
  (if inWord then kw "in" else []) ++ (if leadingColon then op "::" else []) ++
    separated (op "::") false (path.map Ident.tokens)

theorem visibilityText_restricted (inWord leadingColon : Bool) (path : List Ident) :
    Sealed.visibilityText (restricted inWord leadingColon path) =
      "pub (" ++ (scopeTokens inWord leadingColon path).render ++ ")" := by
  rw [← String.toList_inj]
  simp [Sealed.visibilityText, tokens, kw, paren, Tokens.render, Token.renderAll, Token.render,
    Token.isJoint, Delimiter.opening, Delimiter.closing, scopeTokens]

/-- There is a blank behind a token that is not the last one and not joint. -/
theorem blank_mem_render {t : Token} {rest : Tokens} (ht : t.isJoint = false)
    (hrest : rest ≠ []) : ' ' ∈ (Tokens.render (t :: rest)).toList := by
  have hempty : rest.isEmpty = false := by simpa using hrest
  simp [Tokens.render, Token.renderAll, ht, hempty]

theorem render_tokens (name : Ident) : name.tokens.render = name.text := by
  simp [Ident.tokens, Tokens.render, Token.renderAll, Token.render]

/-- Whether a scope is one name and nothing else. -/
def IsLone (inWord leadingColon : Bool) (path : List Ident) : Prop :=
  inWord = false ∧ leadingColon = false ∧ ∃ name, path = [name]

/-- **A scope that is printed as one word is one name.** -/
theorem isLone_of_render {inWord leadingColon : Bool} {path : List Ident} {word : String}
    (h : (scopeTokens inWord leadingColon path).render = word) (hblank : ' ' ∉ word.toList)
    (hcolon : ':' ∉ word.toList) (hempty : word ≠ "") (hin : word ≠ "in") :
    IsLone inWord leadingColon path := by
  subst h
  cases inWord with
  | true =>
    have hscope : scopeTokens true leadingColon path =
        .word "in" .callSite :: scopeTokens false leadingColon path := rfl
    rw [hscope] at hblank hin
    by_cases hrest : scopeTokens false leadingColon path = []
    · rw [hrest] at hin
      exact absurd rfl hin
    · exact absurd (blank_mem_render rfl hrest) hblank
  | false =>
    cases leadingColon with
    | true =>
      refine absurd ?_ hcolon
      simp [scopeTokens, op, joined, Tokens.render, Token.renderAll, Token.render]
    | false =>
      rcases path with _ | ⟨name, _ | ⟨next, rest⟩⟩
      · exact absurd rfl hempty
      · exact ⟨rfl, rfl, name, rfl⟩
      · exact absurd (blank_mem_render rfl (by simp [op, joined])) hblank

/-- The reach of the visibilities with a text. -/
def reachOf (text : String) : Reach :=
  if text = "" then .here
  else if text = "pub" then .everywhere
  else if text = "pub (self)" then .here
  else if text = "pub (crate)" then .crate
  else .path

theorem reachOf_scope (scope : String) : reachOf ("pub (" ++ scope ++ ")") =
    if scope = "self" then .here else if scope = "crate" then .crate else .path := by
  have hscope (word : String) :
      "pub (" ++ scope ++ ")" = "pub (" ++ word ++ ")" ↔ scope = word := by
    simp [← String.toList_inj]
  have hself : "pub (" ++ scope ++ ")" = "pub (self)" ↔ scope = "self" := hscope "self"
  have hcrate : "pub (" ++ scope ++ ")" = "pub (crate)" ↔ scope = "crate" := hscope "crate"
  have hempty : "pub (" ++ scope ++ ")" ≠ "" := by simp [← String.toList_inj]
  have hpub : "pub (" ++ scope ++ ")" ≠ "pub" := by simp [← String.toList_inj]
  simp only [reachOf, hempty, hpub, hself, hcrate, if_false]

/-- **How far a visibility reaches is told by its text.** -/
theorem reach_eq (vis : Visibility) : vis.reach = reachOf (Sealed.visibilityText vis) := by
  cases vis with
  | inherited => rfl
  | everywhere => rfl
  | restricted inWord leadingColon path =>
    rw [visibilityText_restricted, reachOf_scope]
    by_cases hlone : IsLone inWord leadingColon path
    · obtain ⟨rfl, rfl, name, rfl⟩ := hlone
      change _ = if name.tokens.render = "self" then _
        else if name.tokens.render = "crate" then _ else _
      rw [render_tokens]
      rfl
    · have hpath : (restricted inWord leadingColon path).reach = .path := by
        unfold reach
        split
        next heq => cases heq
        next heq => cases heq
        next name heq =>
          cases heq
          exact absurd ⟨rfl, rfl, name, rfl⟩ hlone
        next => rfl
      rw [hpath, if_neg, if_neg]
      · exact fun h => hlone (isLone_of_render h (by decide) (by decide) (by decide) (by decide))
      · exact fun h => hlone (isLone_of_render h (by decide) (by decide) (by decide) (by decide))

end Visibility

namespace Sealed

open Visibility (NoWider reach_eq)

variable {variants others : List Variant} {v w : Variant}

/-- Whether all variants are printed like one. -/
def Uniform (variants : List Variant) (v : Variant) : Prop :=
  ∀ w ∈ variants, visibilityText w.vis = visibilityText v.vis

/-- Whether each variant is printed as one that is seen in the crate or everywhere. -/
def SeenInCrate (variants : List Variant) : Prop :=
  ∀ w ∈ variants, visibilityText w.vis = visibilityText .everywhere ∨
    visibilityText w.vis = visibilityText crateWide

instance : Decidable (Uniform variants v) := inferInstanceAs (Decidable (∀ w ∈ variants, _))

instance : Decidable (SeenInCrate variants) := inferInstanceAs (Decidable (∀ w ∈ variants, _))

/-- The three cases of what variants share, told with the first one. -/
theorem sharedVisibility_cons (first : Variant) (rest : List Variant) :
    sharedVisibility (first :: rest) =
      if Uniform (first :: rest) first then first.vis
      else if SeenInCrate (first :: rest) then crateWide else .inherited := by
  simp [sharedVisibility, Uniform, SeenInCrate]

/-- Variants that are printed alike share what they are printed as. -/
theorem text_of_uniform (hv : v ∈ variants) (h : Uniform variants v) :
    visibilityText (sharedVisibility variants) = visibilityText v.vis := by
  cases variants with
  | nil => cases hv
  | cons first rest =>
    have hfirst := h first List.mem_cons_self
    rw [sharedVisibility_cons, if_pos, hfirst]
    exact fun w hw => (h w hw).trans hfirst.symm

/-- Variants that are not printed alike share the visibility of the crate or none. -/
theorem shared_of_not_uniform (hv : v ∈ variants) (h : ¬ Uniform variants v) :
    sharedVisibility variants = if SeenInCrate variants then crateWide else .inherited := by
  cases variants with
  | nil => cases hv
  | cons first rest =>
    rw [sharedVisibility_cons, if_neg]
    exact fun hfirst => h fun w hw => (hfirst w hw).trans (hfirst v hv).symm

theorem noWider_inherited (vis : Visibility) : NoWider .inherited vis :=
  ⟨Nat.zero_le _, nofun⟩

/-- A visibility is no wider than one that is printed as it is. -/
theorem noWider_of_text {a b : Visibility} (h : visibilityText a = visibilityText b) :
    NoWider a b := by
  have hreach : a.reach = b.reach := by rw [reach_eq a, reach_eq b, h]
  exact ⟨Nat.le_of_eq (congrArg Reach.rank hreach), fun _ _ => h⟩

/-- The visibility of the crate is no wider than those that are seen there or everywhere. -/
theorem noWider_crateWide {vis : Visibility} (h : visibilityText vis = visibilityText .everywhere ∨
    visibilityText vis = visibilityText crateWide) : NoWider crateWide vis := by
  refine ⟨?_, nofun⟩
  rcases h with h | h <;> rw [reach_eq vis, h] <;> decide

/-- Whether two lists of variants have the same visibilities, as they are printed. -/
def PrintedAlike (others variants : List Variant) : Prop :=
  ∀ text, text ∈ others.map (visibilityText ·.vis) ↔ text ∈ variants.map (visibilityText ·.vis)

/-- What holds of all texts that occur is told by which ones do. -/
theorem PrintedAlike.forall_iff (h : PrintedAlike others variants) (p : String → Prop) :
    (∀ w ∈ others, p (visibilityText w.vis)) ↔ ∀ w ∈ variants, p (visibilityText w.vis) := by
  have hall : (∀ text ∈ others.map (visibilityText ·.vis), p text) ↔
      ∀ text ∈ variants.map (visibilityText ·.vis), p text :=
    forall_congr' fun text => imp_congr_left (h text)
  rwa [List.forall_mem_map, List.forall_mem_map] at hall

/-- **What variants share is told by which texts occur.** -/
theorem PrintedAlike.text_shared (h : PrintedAlike others variants) :
    visibilityText (sharedVisibility others) = visibilityText (sharedVisibility variants) := by
  rcases others with _ | ⟨w, rest⟩
  · have hnone : variants.map (visibilityText ·.vis) = [] :=
      List.eq_nil_iff_forall_not_mem.2 fun text htext => List.not_mem_nil ((h text).2 htext)
    rw [List.map_eq_nil_iff.1 hnone]
  · have hw : w ∈ w :: rest := List.mem_cons_self
    obtain ⟨v, hv, hvw⟩ := List.mem_map.1 ((h _).1 (List.mem_map_of_mem hw))
    have huniform : Uniform (w :: rest) w ↔ Uniform variants v := by
      unfold Uniform
      rw [hvw]
      exact h.forall_iff (· = visibilityText w.vis)
    have hseen : SeenInCrate (w :: rest) ↔ SeenInCrate variants :=
      h.forall_iff fun text =>
        text = visibilityText .everywhere ∨ text = visibilityText crateWide
    by_cases hall : Uniform (w :: rest) w
    · rw [text_of_uniform hw hall, text_of_uniform hv (huniform.1 hall), hvw]
    · rw [shared_of_not_uniform hw hall, shared_of_not_uniform hv (mt huniform.2 hall)]
      simp only [hseen]

/-- What the visibility that some variants share has to be. -/
structure IsShared (variants : List Variant) (vis : Visibility) : Prop where
  /-- No variant is seen less far. -/
  noWider : ∀ v ∈ variants, vis.NoWider v.vis
  /-- Where all are printed alike, it is printed as they are. -/
  common : ∀ v ∈ variants, Uniform variants v → visibilityText vis = visibilityText v.vis
  /-- Variants in any order that are printed as these are share one that is printed as it is. -/
  unordered : ∀ others, PrintedAlike others variants →
    visibilityText (sharedVisibility others) = visibilityText vis

/-- **The visibility that variants share is what it has to be.** -/
theorem isShared_sharedVisibility (variants : List Variant) :
    IsShared variants (sharedVisibility variants) where
  noWider v hv := by
    by_cases huniform : Uniform variants v
    · exact noWider_of_text (text_of_uniform hv huniform)
    · rw [shared_of_not_uniform hv huniform]
      split
      next hseen => exact noWider_crateWide (hseen v hv)
      next => exact noWider_inherited _
  common _ hv h := text_of_uniform hv h
  unordered _ h := h.text_shared

end Sealed

end DeclSynth
