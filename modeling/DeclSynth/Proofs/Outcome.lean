import DeclSynth.Expansion.Outcome

/-!
# What an outcome yields

An outcome yields a value exactly when each of its parts does: a sequence
yields what its second part makes of the first one's value, and a check that
is lifted into an outcome yields what the check found. A sequence stops as the
part does that stops. What was reported or logged on the way plays no role for
this; it is what the parts report, in their order, and what reports nothing is
`Quiet`.
-/

namespace DeclSynth

/-- A sequence of checks finds what the second finds, if the first one finds anything. -/
theorem except_bind_eq_ok {ε α β : Type} {x : Except ε α} {f : α → Except ε β} {b : β} :
    (x >>= f) = .ok b ↔ ∃ a, x = .ok a ∧ f a = .ok b := by
  cases x <;> simp [bind, Except.bind]

/-- A check that is known to find something finds it. -/
theorem exists_eq_ok_of_isOk {ε α : Type} {x : Except ε α} (h : x.isOk = true) :
    ∃ a, x = .ok a := by
  cases x with
  | ok a => exact ⟨a, rfl⟩
  | error e => cases h

theorem eq_ok_of_toOption {ε α : Type} {x : Except ε α} {a : α} (h : x.toOption = some a) :
    x = .ok a := by
  cases x with
  | ok _ => rw [Option.some.inj h]
  | error _ => cases h

namespace Outcome

variable {α β : Type}

/-- Sequences are put together in any grouping. -/
protected theorem bind_assoc {γ : Type} (x : Outcome α) (f : α → Outcome β) (g : β → Outcome γ) :
    x >>= f >>= g = x >>= fun a => f a >>= g := by
  change Outcome.bind (Outcome.bind x f) g = Outcome.bind x fun a => Outcome.bind (f a) g
  obtain ⟨result, reported, events⟩ := x
  cases result with
  | error s => rfl
  | ok a =>
    unfold Outcome.bind
    dsimp only
    cases (f a).result with
    | error s => rfl
    | ok b => simp only [List.append_assoc]

@[simp] theorem result_pure (a : α) : (pure a : Outcome α).result = .ok a := rfl

/-- **A sequence yields a value when both parts do.** -/
theorem result_bind_eq_ok {x : Outcome α} {f : α → Outcome β} {b : β} :
    (x >>= f).result = .ok b ↔ ∃ a, x.result = .ok a ∧ (f a).result = .ok b := by
  change (Outcome.bind x f).result = .ok b ↔ _
  unfold Outcome.bind
  cases x.result <;> simp

/-- A sequence comes to what its second part makes of what the first one comes to. -/
theorem result_bind (x : Outcome α) (f : α → Outcome β) :
    (x >>= f).result = x.result >>= fun a => (f a).result := by
  change (Outcome.bind x f).result = _
  unfold Outcome.bind
  cases x.result <;> rfl

/-- What follows a part that yields a value comes to what its continuation comes to. -/
theorem result_bind_of_ok {x : Outcome α} {a : α} (h : x.result = .ok a) (f : α → Outcome β) :
    (x >>= f).result = (f a).result := by
  change (Outcome.bind x f).result = _
  unfold Outcome.bind
  rw [h]

@[simp] theorem result_liftM_failure {x : Except Failure α} {a : α} :
    (liftM x : Outcome α).result = .ok a ↔ x = .ok a := by
  change (ofExcept x).result = .ok a ↔ _
  cases x <;> simp [ofExcept, stop, Outcome.pure]

@[simp] theorem result_liftM_syntax {x : Except SyntaxError α} {a : α} :
    (liftM x : Outcome α).result = .ok a ↔ x = .ok a := by
  change (ofSyntax x).result = .ok a ↔ _
  cases x <;> simp [ofSyntax, stop, Outcome.pure]

@[simp] theorem result_liftM_name {x : Except NameFault α} {a : α} :
    (liftM x : Outcome α).result = .ok a ↔ x = .ok a := by
  change (ofName x).result = .ok a ↔ _
  cases x <;> simp [ofName, stop, Outcome.pure]

/-- A failure yields nothing. -/
@[simp] theorem result_fail (e : ExpandError) (s : Span) (a : α) :
    (fail e s : Outcome α).result = .ok a ↔ False := by
  simp [fail, stop]

@[simp] theorem result_log (l : Level) (m : String) (fs : List (String × String)) (u : Unit) :
    (log l m fs).result = .ok u ↔ True := by
  simp [log]

@[simp] theorem result_warn (s : Span) (m : String) (u : Unit) :
    (warn s m).result = .ok u ↔ True := by
  simp [warn, report]

/-! ## Stopping -/

variable {s : Stop}

/-- **A sequence stops as one of its parts does**, the second only after the first one's value. -/
theorem result_bind_eq_error {x : Outcome α} {f : α → Outcome β} :
    (x >>= f).result = .error s ↔
      x.result = .error s ∨ ∃ a, x.result = .ok a ∧ (f a).result = .error s := by
  change (Outcome.bind x f).result = .error s ↔ _
  unfold Outcome.bind
  cases x.result <;> simp

@[simp] theorem result_liftM_failure_error {x : Except Failure α} :
    (liftM x : Outcome α).result = .error s ↔ ∃ f, x = .error f ∧ s = .failure f := by
  change (ofExcept x).result = .error s ↔ _
  cases x <;> simp [ofExcept, stop, Outcome.pure, eq_comm]

@[simp] theorem result_liftM_syntax_error {x : Except SyntaxError α} :
    (liftM x : Outcome α).result = .error s ↔ ∃ e, x = .error e ∧ s = .failure (.ofSyntax e) := by
  change (ofSyntax x).result = .error s ↔ _
  cases x <;> simp [ofSyntax, stop, Outcome.pure, eq_comm]

@[simp] theorem result_liftM_name_error {x : Except NameFault α} :
    (liftM x : Outcome α).result = .error s ↔ ∃ fault, x = .error fault ∧ s = .panic fault := by
  change (ofName x).result = .error s ↔ _
  cases x <;> simp [ofName, stop, Outcome.pure, eq_comm]

@[simp] theorem result_fail_error (e : ExpandError) (span : Span) :
    (fail e span : Outcome α).result = .error s ↔ s = .failure (e.at span) := by
  simp [fail, stop, eq_comm]

@[simp] theorem result_log_error (l : Level) (m : String) (fs : List (String × String)) :
    (log l m fs).result = .error s ↔ False := by
  simp [log]

/-- Whether an outcome stops at a name that is none. -/
def panics (x : Outcome α) : Bool :=
  match x.result with
  | .error (.panic _) => true
  | _ => false

theorem panics_iff {x : Outcome α} :
    x.panics = true ↔ ∃ fault, x.result = .error (.panic fault) := by
  unfold panics
  split
  · rename_i fault h
    simp [h]
  · rename_i h
    simp only [Bool.false_eq_true, false_iff, not_exists]
    exact fun fault hfault => h fault hfault

/-! ## Reports -/

/-- Nothing is reported. -/
def Quiet (x : Outcome α) : Prop := x.diagnostics = []

/-- A part that yields a value is followed by the reports of what goes on with it. -/
theorem diagnostics_bind_of_ok {x : Outcome α} {a : α} (h : x.result = .ok a)
    (f : α → Outcome β) : (x >>= f).diagnostics = x.diagnostics ++ (f a).diagnostics := by
  change (Outcome.bind x f).diagnostics = _
  unfold Outcome.bind
  rw [h]

/-- A quiet part leaves the reports to what goes on with its value. -/
theorem diagnostics_bind_of_quiet {x : Outcome α} {a : α} (hx : Quiet x) (h : x.result = .ok a)
    (f : α → Outcome β) : (x >>= f).diagnostics = (f a).diagnostics := by
  rw [diagnostics_bind_of_ok h, hx, List.nil_append]

theorem quiet_bind {x : Outcome α} {f : α → Outcome β} (hx : Quiet x) (hf : ∀ a, Quiet (f a)) :
    Quiet (x >>= f) := by
  cases h : x.result with
  | ok a => exact (diagnostics_bind_of_quiet hx h f).trans (hf a)
  | error s =>
    change (Outcome.bind x f).diagnostics = _
    unfold Outcome.bind
    rw [h]
    exact hx

theorem quiet_pure (a : α) : Quiet (pure a : Outcome α) := rfl

theorem quiet_log (l : Level) (m : String) (fs : List (String × String)) : Quiet (log l m fs) := rfl

theorem quiet_fail (e : ExpandError) (span : Span) : Quiet (fail e span : Outcome α) := rfl

theorem quiet_liftM_failure (x : Except Failure α) : Quiet (liftM x : Outcome α) := by
  cases x <;> rfl

theorem quiet_liftM_syntax (x : Except SyntaxError α) : Quiet (liftM x : Outcome α) := by
  cases x <;> rfl

theorem quiet_liftM_name (x : Except NameFault α) : Quiet (liftM x : Outcome α) := by
  cases x <;> rfl

end Outcome

end DeclSynth
