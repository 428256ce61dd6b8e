import DeclSynth.Proofs.Outcome
import Mathlib.Data.List.Forall2

/-!
# Checks and outcomes without places

`placeless` tells what a check finds, or the cause it fails for but not where, and
`Outcome.unplaced` tells the same of an outcome and of everything it reports. What is
found is read by a function that may forget places too. Two sequences come to the same
without places where each of their parts does (`placeless_bind`,
`Outcome.unplaced_bind`), so how an expansion depends on places is settled part by part.
-/

namespace DeclSynth

variable {α α' β β' γ δ ε ε' : Type} {f : α → γ} {f' : α' → γ} {k : β → δ} {k' : β' → δ}

/-! ## Things that are related -/

/-- Related options are both there, or neither is. -/
theorem rel_cases {R : α → β → Prop} {a : Option α} {b : Option β} (h : Option.Rel R a b) :
    (a = none ∧ b = none) ∨ ∃ x y, a = some x ∧ b = some y ∧ R x y := by
  cases h with
  | none => exact .inl ⟨rfl, rfl⟩
  | some hxy => exact .inr ⟨_, _, rfl, rfl, hxy⟩

/-- What is read alike from two options is there in both, or in neither. -/
theorem map_eq_map_cases {a : Option α} {b : Option α'} (h : a.map f = b.map f') :
    (a = none ∧ b = none) ∨ ∃ x y, a = some x ∧ b = some y ∧ f x = f' y := by
  cases a with
  | none =>
    cases b with
    | none => exact .inl ⟨rfl, rfl⟩
    | some y => cases h
  | some x =>
    cases b with
    | none => cases h
    | some y => exact .inr ⟨x, y, rfl, rfl, Option.some.inj h⟩

/-- Related lists have the same image where related elements do. -/
theorem map_eq_map_of_forall₂ {R : α → α' → Prop} {as : List α} {bs : List α'}
    (h : List.Forall₂ R as bs) (hf : ∀ a b, R a b → f a = f' b) : as.map f = bs.map f' := by
  induction h with
  | nil => rfl
  | cons hab _ ih => rw [List.map_cons, List.map_cons, hf _ _ hab, ih]

/-- A search in related lists finds related things. -/
theorem findSome?_rel {R : α → α' → Prop} {S : β → β' → Prop} {as : List α} {bs : List α'}
    {g : α → Option β} {h : α' → Option β'} (hall : List.Forall₂ R as bs)
    (hgh : ∀ a b, R a b → Option.Rel S (g a) (h b)) :
    Option.Rel S (as.findSome? g) (bs.findSome? h) := by
  induction hall with
  | nil => exact .none
  | cons hab _ ih =>
    rw [List.findSome?_cons, List.findSome?_cons]
    obtain ⟨h₁, h₂⟩ | ⟨x, y, h₁, h₂, hxy⟩ := rel_cases (hgh _ _ hab)
    · rw [h₁, h₂]
      exact ih
    · rw [h₁, h₂]
      exact .some hxy

/-! ## Checks -/

/-- What a check finds, as `f` reads it, or the cause it fails for. -/
def placeless {α β : Type} (f : α → β) (x : Except Failure α) : Except ExpandError β :=
  (x.map f).mapError Failure.error

@[simp] theorem placeless_ok (f : α → β) (a : α) : placeless f (.ok a) = .ok (f a) := rfl

@[simp] theorem placeless_error (f : α → β) (e : Failure) :
    placeless f (.error e) = .error e.error := rfl

/-- Checks that come to the same both find something, or both fail for one cause. -/
theorem placeless_cases {x : Except Failure α} {y : Except Failure α'}
    (h : placeless f x = placeless f' y) :
    (∃ e e', x = .error e ∧ y = .error e' ∧ e.error = e'.error) ∨
      ∃ a b, x = .ok a ∧ y = .ok b ∧ f a = f' b := by
  cases x with
  | error e =>
    cases y with
    | error e' => exact .inl ⟨e, e', rfl, rfl, Except.error.inj h⟩
    | ok b => cases h
  | ok a =>
    cases y with
    | error e => cases h
    | ok b => exact .inr ⟨a, b, rfl, rfl, Except.ok.inj h⟩

/-- **A sequence of checks comes to what another one does where each part does.** -/
theorem placeless_bind {x : Except Failure α} {y : Except Failure α'} {g : α → Except Failure β}
    {h : α' → Except Failure β'} (hxy : placeless f x = placeless f' y)
    (hgh : ∀ a b, f a = f' b → placeless k (g a) = placeless k' (h b)) :
    placeless k (x >>= g) = placeless k' (y >>= h) := by
  obtain ⟨e, e', rfl, rfl, hcause⟩ | ⟨a, b, rfl, rfl, hab⟩ := placeless_cases hxy
  · exact congrArg Except.error hcause
  · exact hgh a b hab

/-- **Two lists are checked alike where their elements are**, one after the other. -/
theorem placeless_mapM {as : List ε} {bs : List ε'} {g : ε → Except Failure α}
    {h : ε' → Except Failure α'}
    (hall : List.Forall₂ (fun a b => placeless f (g a) = placeless f' (h b)) as bs) :
    placeless (List.map f) (as.mapM g) = placeless (List.map f') (bs.mapM h) := by
  induction hall with
  | nil => rfl
  | cons hhead _ ih =>
    rw [List.mapM_cons, List.mapM_cons]
    refine placeless_bind hhead fun a b hab => ?_
    refine placeless_bind ih fun as bs habs => ?_
    exact congrArg Except.ok (congrArg₂ List.cons hab habs)

/-! ## Outcomes -/

/-- A stop without the place of its failure. -/
def Stop.unplaced : Stop → Stop
  | failure f => failure (f.error.at .callSite)
  | panic fault => panic fault

/-- A diagnostic without its place. -/
def Diagnostic.unplaced (d : Diagnostic) : Diagnostic := { d with span := .callSite }

namespace Outcome

/-- What an outcome comes to, as `f` reads it, and what it reports: all without places. -/
def unplaced (f : α → β) (x : Outcome α) : Except Stop β × Diagnostics :=
  ((x.result.map f).mapError Stop.unplaced, x.diagnostics.map Diagnostic.unplaced)

theorem unplaced_pure {a : α} {b : α'} (h : f a = f' b) :
    unplaced f (pure a) = unplaced f' (pure b) :=
  congrArg (Except.ok ·, []) h

theorem unplaced_fail (e : ExpandError) (s s' : Span) :
    unplaced f (fail e s) = unplaced f' (fail e s') := rfl

theorem unplaced_log (l l' : Level) (m m' : String) (fs fs' : List (String × String)) :
    unplaced id (log l m fs) = unplaced id (log l' m' fs') := rfl

theorem unplaced_warn (s s' : Span) (m : String) :
    unplaced id (warn s m) = unplaced id (warn s' m) := rfl

/-- A check is lifted with the cause it fails for. -/
theorem unplaced_liftM {x : Except Failure α} {y : Except Failure α'}
    (h : placeless f x = placeless f' y) :
    unplaced f (liftM x) = unplaced f' (liftM y) := by
  obtain ⟨e, e', rfl, rfl, hcause⟩ | ⟨a, b, rfl, rfl, hab⟩ := placeless_cases h
  · change unplaced f (fail e.error e.span) = unplaced f' (fail e'.error e'.span)
    rw [hcause]
    exact unplaced_fail _ _ _
  · exact unplaced_pure hab

theorem unplaced_map_name (g : α → β) (x : Except NameFault α) :
    unplaced id (liftM (x.map g)) = unplaced g (liftM x) := by
  cases x <;> rfl

/-- A tree that is there is gone on with. -/
theorem liftM_ok_bind (a : α) (g : α → Outcome β) :
    (liftM (.ok a : Except SyntaxError α) : Outcome α) >>= g = g a := rfl

/-- **A sequence comes to what another one does where each part does.** -/
theorem unplaced_bind {x : Outcome α} {y : Outcome α'} {g : α → Outcome β} {h : α' → Outcome β'}
    (hxy : unplaced f x = unplaced f' y)
    (hgh : ∀ a b, f a = f' b → unplaced k (g a) = unplaced k' (h b)) :
    unplaced k (x >>= g) = unplaced k' (y >>= h) := by
  change unplaced k (Outcome.bind x g) = unplaced k' (Outcome.bind y h)
  obtain ⟨r, ds, es⟩ := x
  obtain ⟨r', ds', es'⟩ := y
  obtain ⟨hresult, hreports⟩ := Prod.mk.inj hxy
  cases r with
  | error s =>
    cases r' with
    | error s' => exact Prod.ext (congrArg Except.error (Except.error.inj hresult)) hreports
    | ok b => cases hresult
  | ok a =>
    cases r' with
    | error s => cases hresult
    | ok b =>
      obtain ⟨hnext, hothers⟩ := Prod.mk.inj (hgh a b (Except.ok.inj hresult))
      refine Prod.ext hnext ?_
      simp only [unplaced, Outcome.bind, List.map_append] at hreports ⊢
      rw [hreports, hothers]

/-- A sequence goes on as another one that starts the same way. -/
theorem unplaced_bind_right {x : Outcome α} {g : α → Outcome β} {h : α → Outcome β'}
    (hgh : ∀ a, unplaced k (g a) = unplaced k' (h a)) :
    unplaced k (x >>= g) = unplaced k' (x >>= h) := by
  have hx : unplaced id x = unplaced id x := rfl
  refine unplaced_bind hx fun a b hab => ?_
  obtain rfl : a = b := hab
  exact hgh a

end Outcome

end DeclSynth
