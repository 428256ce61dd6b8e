import DeclSynth.Proofs.Sealed.Invocation
import Mathlib.Data.List.Forall2

/-!
# Buckets and warnings

Behind the bucket of all variants stands one bucket for each role that is played, in the
order in which the roles are declared (`addRoles_eq_append`). A role that is not played is
reported once, and nothing else is reported but the getters that hide a classifier
(`Invocation.diagnostics_expand`).
-/

namespace DeclSynth.Sealed

variable {c : Config} {args item : Tokens} {suffix : String} {base role : Ident}
variable {variants : List Variant} {roles : List Ident} {buckets all : List Bucket}

/-! ## One bucket for each role -/

/-- Whether a variant plays a role. -/
def isPlayed (variants : List Variant) (role : Ident) : Bool := variants.any (·.plays role)

theorem isPlayed_iff : isPlayed variants role = true ↔ Played variants role := List.any_eq_true

/-- **The loop over the roles adds one bucket for each role that is played, in their order.** -/
theorem addRoles_eq_append
    (h : (addRoles suffix base variants buckets roles).result = .ok all) :
    ∃ new, all = buckets ++ new ∧
      List.Forall₂ (fun role b => IsBucketOf suffix base role variants b)
        (roles.filter (isPlayed variants)) new := by
  induction roles generalizing buckets with
  | nil =>
    obtain rfl : buckets = all := Except.ok.inj h
    exact ⟨[], (List.append_nil _).symm, .nil⟩
  | cons role rest ih =>
    obtain ⟨more, hmore, hrest⟩ := addRoles_cons_ok.1 h
    obtain ⟨new, rfl, hnew⟩ := ih hrest
    by_cases hplayed : Played variants role
    · simp only [addRoles_of_played hplayed, Outcome.result_bind_eq_ok, result_addRoles_nil,
        Outcome.result_liftM_name, Except.ok.injEq] at hmore
      obtain ⟨bucket, hbucket, ⟨⟩, -, rfl⟩ := hmore
      refine ⟨bucket :: new, by simp, ?_⟩
      rw [List.filter_cons_of_pos (isPlayed_iff.2 hplayed)]
      exact .cons (ofRole_eq_ok hbucket) hnew
    · rw [result_addRoles_of_not_played hplayed, result_addRoles_nil] at hmore
      cases hmore
      refine ⟨new, rfl, ?_⟩
      rwa [List.filter_cons_of_neg (fun h => hplayed (isPlayed_iff.1 h))]

/-- Roles that are told apart from one another and from those before them. -/
theorem checkDistinct_eq_ok {seen : List Ident} (h : checkDistinct seen roles = .ok ()) :
    (roles.map (·.text)).Nodup ∧ ∀ role ∈ roles, ∀ s ∈ seen, s.text ≠ role.text := by
  induction roles generalizing seen with
  | nil => simp
  | cons role rest ih =>
    unfold checkDistinct at h
    split at h
    · cases h
    · rename_i hnew
      obtain ⟨hrest, hseen⟩ := ih h
      have hrole : ∀ s ∈ seen, s.text ≠ role.text := fun s hs hsame =>
        hnew (List.any_eq_true.2 ⟨s, hs, Ident.sameName_iff.2 hsame.symm⟩)
      refine ⟨?_, fun other hother s hs => ?_⟩
      · rw [List.map_cons, List.nodup_cons]
        refine ⟨fun hmem => ?_, hrest⟩
        obtain ⟨other, hother, hsame⟩ := List.mem_map.1 hmem
        exact hseen other hother role List.mem_cons_self hsame.symm
      · rcases List.mem_cons.1 hother with rfl | hother
        · exact hrole s hs
        · exact hseen other hother s (List.mem_cons_of_mem _ hs)

/-- Declared roles have different names. -/
theorem nodup_declaredRoles {l : ArgumentList} (h : declaredRoles l = .ok roles) :
    (roles.map (·.text)).Nodup := by
  unfold declaredRoles at h
  simp only [except_bind_eq_ok] at h
  obtain ⟨_, -, ⟨⟩, hdistinct, h⟩ := h
  cases h
  exact (checkDistinct_eq_ok hdistinct).1

/-! ## Reports -/

/-- The warning of a role that no variant plays. -/
def unplayedWarning (role : Ident) : Diagnostic :=
  ⟨"role `" ++ role.text ++ "` has no variants; nothing is generated for it", .warning, role.span⟩

/-- **Each role that is not played is reported once, in the order of the roles.** -/
theorem diagnostics_addRoles
    (h : (addRoles suffix base variants buckets roles).result = .ok all) :
    (addRoles suffix base variants buckets roles).diagnostics =
      (roles.filter fun role => !isPlayed variants role).map unplayedWarning := by
  induction roles generalizing buckets with
  | nil =>
    rw [addRoles_nil]
    rfl
  | cons role rest ih =>
    by_cases hplayed : Played variants role
    · rw [addRoles_of_played hplayed] at h ⊢
      simp only [Outcome.result_bind_eq_ok, Outcome.result_liftM_failure] at h
      obtain ⟨bucket, hbucket, ⟨⟩, hcheck, hrest⟩ := h
      rw [Outcome.diagnostics_bind_of_quiet (Outcome.quiet_liftM_name _) hbucket,
        Outcome.diagnostics_bind_of_quiet (Outcome.quiet_liftM_failure _)
          (Outcome.result_liftM_failure.2 hcheck), ih hrest,
        List.filter_cons_of_neg (by simp [isPlayed_iff.2 hplayed])]
    · rw [result_addRoles_of_not_played hplayed] at h
      have hnone : isPlayed variants role = false :=
        Bool.eq_false_iff.2 fun h => hplayed (isPlayed_iff.1 h)
      have hempty : (variants.filter (·.plays role)).isEmpty = true := by
        rwa [played_iff, Bool.not_eq_false] at hplayed
      rw [addRoles_cons, if_pos hempty,
        Outcome.diagnostics_bind_of_ok ((Outcome.result_warn _ _ ()).2 trivial), ih h,
        List.filter_cons_of_pos (by simp [hnone])]
      rfl

/-- Collecting the variants reports nothing. -/
theorem quiet_ofItem? (declared : List Ident) (item : Item) :
    (Variant.ofItem? declared item).Quiet := by
  unfold Variant.ofItem?
  dsimp only
  split
  · exact Outcome.quiet_pure _
  · refine Outcome.quiet_bind (Outcome.quiet_liftM_failure _) fun roles => ?_
    split
    · refine Outcome.quiet_bind ?_ fun v => Outcome.quiet_pure _
      unfold Variant.ofStruct
      split
      · exact Outcome.quiet_fail _ _
      · exact Outcome.quiet_bind (Outcome.quiet_log _ _ _) fun _ => Outcome.quiet_pure _
    · exact Outcome.quiet_fail _ _

theorem quiet_collect (declared : List Ident) (items : List Item) :
    (Variant.collect declared items).Quiet := by
  induction items with
  | nil => exact Outcome.quiet_pure _
  | cons item rest ih =>
    exact Outcome.quiet_bind (quiet_ofItem? declared item) fun found =>
      Outcome.quiet_bind ih fun others => Outcome.quiet_pure _

theorem diagnostics_forM_report (shadows : List Hierarchy.Shadow) :
    (shadows.forM fun s => Outcome.report s.warning).diagnostics =
      shadows.map Hierarchy.Shadow.warning := by
  induction shadows with
  | nil => rfl
  | cons s rest ih =>
    exact (Outcome.diagnostics_bind_of_ok rfl _).trans (congrArg (List.cons s.warning) ih)

/-- **A hierarchy that is built reports the roles that are not played, and behind them the getters
that hide a classifier.** -/
theorem diagnostics_build {items : List Item} {h : Hierarchy}
    (hbuild : (Hierarchy.build c base roles variants items).result = .ok h) :
    (Hierarchy.build c base roles variants items).diagnostics =
      (roles.filter fun role => !isPlayed variants role).map unplayedWarning ++
        (h.shadows items).map Hierarchy.Shadow.warning := by
  obtain ⟨discriminator, classifier, buckets, hdiscriminator, hclassifier, hbuckets, rfl, htypes,
    hmethods⟩ := build_eq_ok_iff.1 hbuild
  unfold aggregate at hbuckets
  rw [Hierarchy.build, (Hierarchy.carriesOut_buildInContext _ _ _ _ _).fresh_eq]
  dsimp only
  -- only the loop over the roles and the last step report anything
  rw [Outcome.diagnostics_bind_of_quiet (Outcome.quiet_liftM_failure _)
      (Outcome.result_liftM_failure.2 (Config.reportAt_eq_ok_iff.2 hdiscriminator)),
    Outcome.diagnostics_bind_of_quiet (Outcome.quiet_liftM_failure _)
      (Outcome.result_liftM_failure.2 (Config.reportAt_eq_ok_iff.2 hclassifier)),
    Outcome.diagnostics_bind_of_ok hbuckets, diagnostics_addRoles hbuckets,
    Outcome.diagnostics_bind_of_quiet (Outcome.quiet_liftM_failure _)
      (Outcome.result_liftM_failure.2 htypes),
    Outcome.diagnostics_bind_of_quiet (Outcome.quiet_liftM_failure _)
      (Outcome.result_liftM_failure.2 hmethods),
    Outcome.diagnostics_bind_of_ok (result_forM_report _), diagnostics_forM_report]
  exact congrArg _ (List.append_nil _)

namespace Invocation

/-- What is reported of a module is reported while it is sealed. -/
theorem diagnostics_expand (m : Invocation args item) (c : Config) :
    (expand c args item).diagnostics = (m.sealedItems c).diagnostics := by
  rw [expand, (carriesOut_inContext c args item).fresh_eq]
  rw [Outcome.diagnostics_bind_of_quiet (Outcome.quiet_liftM_syntax _)
      (Outcome.result_liftM_syntax.2 m.list_eq),
    Outcome.diagnostics_bind_of_quiet (Outcome.quiet_liftM_failure _)
      (Outcome.result_liftM_failure.2 m.list_valid),
    Outcome.diagnostics_bind_of_quiet (Outcome.quiet_liftM_failure _)
      (Outcome.result_liftM_failure.2 m.roles_eq),
    Outcome.diagnostics_bind_of_quiet (Outcome.quiet_liftM_syntax _)
      (Outcome.result_liftM_syntax.2 m.item_eq)]
  dsimp only
  rw [Outcome.diagnostics_bind_of_quiet (Outcome.quiet_liftM_failure _)
    (Outcome.result_liftM_failure.2 m.base_eq)]
  change (Outcome.bind (m.sealedItems c) _).diagnostics = _
  unfold Outcome.bind
  cases (m.sealedItems c).result with
  | ok items => exact List.append_nil _
  | error s => rfl

/-- **A module with variants gets the code of its hierarchy**, and the roles that are not played
are reported, once each, and behind them the getters that hide a classifier. -/
theorem exists_of_sealedItems_eq_ok {m : Invocation args item} {items : List Item}
    (hitems : (m.sealedItems c).result = .ok items) (hmarked : markedStructs m.items ≠ []) :
    ∃ h : Hierarchy, (Hierarchy.build c m.base m.roles m.variants m.unmarked).result = .ok h ∧
      items = m.unmarked ++ [.verbatim h.tokens] ∧
      (m.sealedItems c).diagnostics =
        (m.roles.filter fun role => !isPlayed m.variants role).map unplayedWarning ++
          (h.shadows m.unmarked).map Hierarchy.Shadow.warning := by
  obtain ⟨-, -, hsealed⟩ := sealedItems_eq_ok hitems
  obtain ⟨h, hbuild, rfl⟩ := hsealed hmarked
  refine ⟨h, hbuild, rfl, ?_⟩
  rw [sealedItems, sealItems, (carriesOut_sealInContext _ _ _ _ _).fresh_eq,
    Outcome.diagnostics_bind_of_quiet (quiet_collect _ _) (collect_of_sealedItems_eq_ok hitems)]
  dsimp only
  rw [if_neg (by simpa [variants] using hmarked)]
  refine (Outcome.diagnostics_bind_of_ok hbuild _).trans ?_
  rw [diagnostics_build hbuild]
  exact List.append_nil _

end Invocation

end DeclSynth.Sealed
