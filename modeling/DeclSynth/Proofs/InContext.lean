import DeclSynth.Expansion.InContext
import DeclSynth.Proofs.Outcome

/-!
# Programs that read only the configuration

A program in a context may read whatever the context holds, and a session remembers what
was reported and logged before. It `CarriesOut` an outcome under a configuration if none of
this matters: whatever came before, it comes to the outcome's result and adds the outcome's
reports and events. Each operation carries out its own outcome, and a sequence carries out
the sequence of what its parts carry out (`CarriesOut.bind`), as does a loop
(`CarriesOut.forM`). So an expander that is put together from such parts is determined by
what it does in a fresh context (`CarriesOut.fresh_eq`).
-/

namespace DeclSynth.InContext

variable {α β : Type} {c : Config}

/-- Under this configuration, whatever was reported and logged before, a program comes to what the
outcome comes to, with the outcome's reports and events behind the earlier ones. -/
def CarriesOut (p : InContext α) (c : Config) (x : Outcome α) : Prop :=
  ∀ (earlier : Diagnostics) (logged : List Event),
    p ⟨⟨c, earlier⟩, logged⟩ =
      (x.result, ⟨⟨c, earlier ++ x.diagnostics⟩, logged ++ x.events⟩)

/-! ## Operations -/

theorem carriesOut_log (level : Level) (message : String) (fields : List (String × String)) :
    CarriesOut (log level message fields) c (.log level message fields) := by
  intro earlier logged
  change _ = (Except.ok (), (⟨⟨c, earlier ++ []⟩, logged ++ [_]⟩ : Session))
  rw [List.append_nil]
  rfl

theorem carriesOut_report (d : Diagnostic) : CarriesOut (report d) c (.report d) := fun _ _ => rfl

theorem carriesOut_warn (span : Span) (message : String) :
    CarriesOut (warn span message) c (.warn span message) :=
  carriesOut_report _

theorem carriesOut_pure (a : α) : CarriesOut (pure a) c (pure a) := by
  intro earlier logged
  change _ = (Except.ok a, (⟨⟨c, earlier ++ []⟩, logged ++ []⟩ : Session))
  rw [List.append_nil, List.append_nil]
  rfl

theorem carriesOut_stop (s : Stop) : CarriesOut (throw s : InContext α) c (.stop s) := by
  intro earlier logged
  change _ = (Except.error s, (⟨⟨c, earlier ++ []⟩, logged ++ []⟩ : Session))
  rw [List.append_nil, List.append_nil]
  rfl

theorem carriesOut_fail (error : ExpandError) (span : Span) :
    CarriesOut (fail error span : InContext α) c (.fail error span) :=
  carriesOut_stop _

/-! ## What needs no context -/

theorem carriesOut_carryOut (x : Outcome α) : CarriesOut (liftM x) c x := fun _ _ => rfl

theorem carriesOut_ofExcept (x : Except Failure α) : CarriesOut (liftM x) c (liftM x) :=
  fun _ _ => rfl

theorem carriesOut_ofSyntax (x : Except SyntaxError α) : CarriesOut (liftM x) c (liftM x) :=
  fun _ _ => rfl

theorem carriesOut_ofName (x : Except NameFault α) : CarriesOut (liftM x) c (liftM x) :=
  fun _ _ => rfl

/-! ## Sequences -/

theorem bind_apply_of_ok {p : InContext α} {f : α → InContext β} {s s' : Session} {a : α}
    (h : p s = (.ok a, s')) : (p >>= f) s = f a s' := by
  change ExceptT.bindCont f (p s).1 (p s).2 = _
  rw [h]
  rfl

theorem bind_apply_of_error {p : InContext α} {f : α → InContext β} {s s' : Session} {stop : Stop}
    (h : p s = (.error stop, s')) : (p >>= f) s = (.error stop, s') := by
  change ExceptT.bindCont f (p s).1 (p s).2 = _
  rw [h]
  rfl

/-- **A sequence carries out the sequence of what its parts carry out.** -/
theorem CarriesOut.bind {p : InContext α} {f : α → InContext β} {x : Outcome α}
    {y : α → Outcome β} (hp : p.CarriesOut c x) (hf : ∀ a, (f a).CarriesOut c (y a)) :
    (p >>= f).CarriesOut c (x >>= y) := by
  intro earlier logged
  obtain ⟨result, reported, events⟩ := x
  cases result with
  | ok a =>
    -- the second part starts in the session that the first one leaves
    rw [bind_apply_of_ok (hp earlier logged), hf a, List.append_assoc, List.append_assoc]
    rfl
  | error stop => exact bind_apply_of_error (hp earlier logged)

/-- What reads the configuration carries out what it does with it. -/
theorem CarriesOut.config {f : Config → InContext β} {y : Outcome β}
    (hf : (f c).CarriesOut c y) : (config >>= f).CarriesOut c y :=
  fun earlier logged => hf earlier logged

/-- A loop carries out the loop of what its passes carry out. -/
theorem CarriesOut.forM {f : α → InContext Unit} {y : α → Outcome Unit}
    (hf : ∀ a, (f a).CarriesOut c (y a)) (as : List α) :
    (as.forM f).CarriesOut c (as.forM y) := by
  induction as with
  | nil => exact carriesOut_pure ()
  | cons a rest ih => exact (hf a).bind fun _ => ih

/-! ## Fresh contexts -/

variable {p : InContext α} {x : Outcome α}

/-- What a program carries out is what it comes to in a fresh context. -/
theorem CarriesOut.fresh_eq (h : p.CarriesOut c x) : p.fresh c = x := by
  have hrun : p (.ofConfig c) = _ := h [] []
  simp only [fresh, hrun, List.nil_append]

/-- A program that carries out something carries out what it comes to in a fresh context. -/
theorem CarriesOut.of_fresh (h : p.CarriesOut c x) : p.CarriesOut c (p.fresh c) :=
  h.fresh_eq.symm ▸ h

end DeclSynth.InContext
