import DeclSynth.Continuation
import Mathlib.Data.List.Induction

/-!
# One value, at most once

The two halves of a continuation are acted on in any order by any number of
parties. What an action shows and what it leaves is told by the history of the
actions before it, without the state: which value was the first to be resumed
with, whether the resuming half was dropped, who waits and whether the waiting
half is gone. The state is what the history says (`after_eq`), one action keeps
it so (`act_ofHistory`), and the laws of the continuation are read off there
(`history_laws`).
-/

namespace DeclSynth.Continuation

variable {α : Type}

/-! ## Actions -/

/-- What can happen to a continuation. -/
inductive Action (α : Type) where
  | resume (value : α)
  | askResumed
  /-- Waits for the handler of the function of this name, and looks whether the wait is over. -/
  | wait (origin : String)
  /-- Looks again whether the wait is over. -/
  | poll
  | dropWaiter
  | dropResumption

/-- What an action shows. -/
inductive Shown (α : Type) where
  | nothing
  | logged (events : List Event)
  | resumed (b : Bool)
  | polled (p : Poll α)
  /-- The resuming half that the action needs was dropped. -/
  | unable

/-- Acts on a continuation. -/
def act (c : Continuation α) : Action α → Continuation α × Shown α
  | .resume value =>
    match c.resume? value with
    | some (c', events) => (c', .logged events)
    | Option.none => (c, .unable)
  | .askResumed =>
    match c.isResumed? with
    | some b => (c, .resumed b)
    | Option.none => (c, .unable)
  | .wait origin => ((c.wait origin).1, .polled (c.wait origin).2)
  | .poll => (c.poll.1, .polled c.poll.2)
  | .dropWaiter => (c.dropWaiter, .nothing)
  | .dropResumption => (c.dropResumption, .nothing)

/-- An action that took place, and what it showed. -/
abbrev Occurrence (α : Type) := Action α × Shown α

/-- Acts on a continuation time and again: what happened, and what is left. -/
def run : List (Action α) → Continuation α → List (Occurrence α) × Continuation α
  | [], c => ([], c)
  | a :: actions, c =>
    ((a, (c.act a).2) :: (run actions (c.act a).1).1, (run actions (c.act a).1).2)

/-- What has happened to a new continuation by some actions. -/
def history (actions : List (Action α)) : List (Occurrence α) := (run actions fresh).1

/-- A new continuation after some actions. -/
def after (actions : List (Action α)) : Continuation α := (run actions fresh).2

/-- What an action shows after some others. -/
def shown (actions : List (Action α)) (a : Action α) : Shown α := ((after actions).act a).2

/-! ## What a history tells -/

/-- The value of a resumption that took place. -/
@[simp] def Occurrence.resumes? : Occurrence α → Option α
  | (.resume value, .logged _) => some value
  | _ => Option.none

/-- The function for whose handler an action waits. -/
@[simp] def Action.waitsFor? : Action α → Option String
  | .wait origin => some origin
  | _ => Option.none

/-- Whether an occurrence yields a value. -/
@[simp] def Occurrence.yields : Occurrence α → Bool
  | (_, .polled (.ready _)) => true
  | _ => false

/-- Whether the waiting half goes away: it is dropped, or its wait is over. -/
@[simp] def Occurrence.endsWait : Occurrence α → Bool
  | (.dropWaiter, _) | (_, .polled (.ready _)) | (_, .polled (.abandoned _)) => true
  | _ => false

/-- Whether the resuming half is dropped. -/
@[simp] def Occurrence.dropsResumption : Occurrence α → Bool
  | (.dropResumption, _) => true
  | _ => false

variable {h : List (Occurrence α)} {o : Occurrence α} {actions : List (Action α)}

/-- The value of the first resumption. -/
def firstResumed (h : List (Occurrence α)) : Option α := h.findSome? Occurrence.resumes?

/-- The function for whose handler the first wait is. -/
def firstOrigin (h : List (Occurrence α)) : Option String := h.findSome? fun o => o.1.waitsFor?

/-- Whether the waiting half is gone. -/
def waiterGone (h : List (Occurrence α)) : Bool := h.any Occurrence.endsWait

/-- Whether the resuming half was dropped. -/
def resumptionDropped (h : List (Occurrence α)) : Bool := h.any Occurrence.dropsResumption

/-- The continuation that a history leaves. -/
def ofHistory (h : List (Occurrence α)) : Continuation α where
  waiter :=
    if waiterGone h then .gone
    else match firstOrigin h with
      | some origin => .waiting origin
      | Option.none => .idle
  resumption :=
    if resumptionDropped h then .dropped
    else if (firstResumed h).isSome then .resumed
    else .armed
  sent := if waiterGone h then Option.none else firstResumed h

@[simp] theorem firstResumed_concat :
    firstResumed (h ++ [o]) = (firstResumed h).or o.resumes? := by
  simp [firstResumed, List.findSome?_append]

@[simp] theorem firstOrigin_concat :
    firstOrigin (h ++ [o]) = (firstOrigin h).or o.1.waitsFor? := by
  simp [firstOrigin, List.findSome?_append]

@[simp] theorem waiterGone_concat : waiterGone (h ++ [o]) = (waiterGone h || o.endsWait) := by
  simp [waiterGone]

@[simp] theorem resumptionDropped_concat :
    resumptionDropped (h ++ [o]) = (resumptionDropped h || o.dropsResumption) := by
  simp [resumptionDropped]

/-! ## One action -/

/-- The function for whose handler an action waits after a history, if it looks at a wait that is
not over. -/
def looksFor? (h : List (Occurrence α)) (a : Action α) : Option String :=
  if waiterGone h then Option.none
  else match a with
    | .wait origin => (firstOrigin h).or (some origin)
    | .poll => firstOrigin h
    | _ => Option.none

/-- What a look shows after a history. -/
def look (h : List (Occurrence α)) : Option String → Poll α
  | Option.none => .gone
  | some origin =>
    match firstResumed h with
    | some value => .ready value
    | Option.none => if resumptionDropped h then .abandoned origin else .pending

/-- What an action shows after a history. -/
def tells (h : List (Occurrence α)) (a : Action α) : Shown α :=
  match a with
  | .resume _ =>
    if resumptionDropped h then .unable
    else if (firstResumed h).isSome then .logged [repeatedEvent]
    else if waiterGone h then .logged [lateEvent]
    else .logged []
  | .askResumed => if resumptionDropped h then .unable else .resumed (firstResumed h).isSome
  | .wait _ | .poll => .polled (look h (looksFor? h a))
  | .dropWaiter | .dropResumption => .nothing

/-- What neither resumes nor waits nor drops a half leaves the continuation as it is. -/
theorem ofHistory_concat_of_idle (hresumes : o.resumes? = Option.none)
    (hwaits : o.1.waitsFor? = Option.none) (hends : o.endsWait = false)
    (hdrops : o.dropsResumption = false) : ofHistory (h ++ [o]) = ofHistory h := by
  simp only [ofHistory, firstResumed_concat, firstOrigin_concat, waiterGone_concat,
    resumptionDropped_concat, hresumes, hwaits, hends, hdrops, Option.or_none, Bool.or_false]

theorem act_resume (h : List (Occurrence α)) (value : α) :
    (ofHistory h).act (.resume value) =
      (ofHistory (h ++ [(.resume value, tells h (.resume value))]), tells h (.resume value)) := by
  cases hdropped : resumptionDropped h with
  | true =>
    have htells : tells h (.resume value) = .unable := by simp [tells, hdropped]
    rw [htells, ofHistory_concat_of_idle rfl rfl rfl rfl]
    simp [act, resume?, ofHistory, hdropped]
  | false =>
    cases hfirst : firstResumed h with
    | some first => simp [act, resume?, ofHistory, tells, hdropped, hfirst]
    | none =>
      cases hgone : waiterGone h with
      | true => simp [act, resume?, ofHistory, tells, hdropped, hfirst, hgone]
      | false =>
        cases horigin : firstOrigin h <;>
          simp [act, resume?, ofHistory, tells, hdropped, hfirst, hgone, horigin]

theorem act_askResumed (h : List (Occurrence α)) :
    (ofHistory h).act .askResumed =
      (ofHistory (h ++ [(.askResumed, tells h .askResumed)]), tells h .askResumed) := by
  cases hdropped : resumptionDropped h <;> cases hfirst : firstResumed h <;>
    simp [act, isResumed?, ofHistory, tells, hdropped, hfirst]

/-- A look takes the waiting half away exactly if it shows that the wait is over. -/
theorem act_look (h : List (Occurrence α)) {a : Action α}
    (ha : a = .poll ∨ ∃ origin, a = .wait origin) :
    (ofHistory h).act a = (ofHistory (h ++ [(a, tells h a)]), tells h a) := by
  cases hgone : waiterGone h with
  | true =>
    rcases ha with rfl | ⟨origin, rfl⟩ <;>
      simp [act, wait, poll, ofHistory, tells, look, looksFor?, hgone]
  | false =>
    cases hfirst : firstResumed h <;> cases hdropped : resumptionDropped h <;>
      cases horigin : firstOrigin h <;> rcases ha with rfl | ⟨origin, rfl⟩ <;>
      simp [act, wait, poll, ofHistory, tells, look, looksFor?, hgone, hfirst, hdropped, horigin]

/-- **One action.** It shows what the history tells, and leaves what the history then leaves. -/
theorem act_ofHistory (h : List (Occurrence α)) (a : Action α) :
    (ofHistory h).act a = (ofHistory (h ++ [(a, tells h a)]), tells h a) := by
  cases a with
  | resume value => exact act_resume h value
  | askResumed => exact act_askResumed h
  | wait origin => exact act_look h (.inr ⟨origin, rfl⟩)
  | poll => exact act_look h (.inl rfl)
  | dropWaiter => simp [act, dropWaiter, ofHistory, tells]
  | dropResumption => simp [act, dropResumption, ofHistory, tells]

/-- A wait that is not over shows what the first resumption and the drop of the resuming half
tell. -/
theorem tells_eq_polled_iff {p : Poll α} {a : Action α} (hp : p ≠ .gone) :
    tells h a = .polled p ↔
      ∃ origin, looksFor? h a = some origin ∧ look h (some origin) = p := by
  have hlook (found : Option String) : look h found = p ↔
      ∃ origin, found = some origin ∧ look h (some origin) = p := by
    cases found with
    | none => simp [look, hp.symm]
    | some origin => simp
  cases a with
  | wait origin => rw [tells, Shown.polled.injEq, hlook]
  | poll => rw [tells, Shown.polled.injEq, hlook]
  | resume value =>
    simp only [tells, looksFor?, ite_self]
    split_ifs <;> simp
  | askResumed =>
    simp only [tells, looksFor?, ite_self]
    split_ifs <;> simp
  | dropWaiter => simp [tells, looksFor?]
  | dropResumption => simp [tells, looksFor?]

theorem look_eq_ready_iff {origin : String} {value : α} :
    look h (some origin) = .ready value ↔ firstResumed h = some value := by
  cases hfirst : firstResumed h <;> cases hdropped : resumptionDropped h <;>
    simp [look, hfirst, hdropped]

theorem look_eq_abandoned_iff {origin origin' : String} :
    look h (some origin) = .abandoned origin' ↔
      origin = origin' ∧ firstResumed h = Option.none ∧ resumptionDropped h := by
  cases hfirst : firstResumed h <;> cases hdropped : resumptionDropped h <;>
    simp [look, hfirst, hdropped]

theorem look_eq_pending_iff {origin : String} :
    look h (some origin) = .pending ↔ firstResumed h = Option.none ∧ ¬resumptionDropped h := by
  cases hfirst : firstResumed h <;> cases hdropped : resumptionDropped h <;>
    simp [look, hfirst, hdropped]

/-! ## Any actions -/

theorem run_concat (a : Action α) (c : Continuation α) :
    run (actions ++ [a]) c =
      ((run actions c).1 ++ [(a, ((run actions c).2.act a).2)], ((run actions c).2.act a).1) := by
  induction actions generalizing c with
  | nil => rfl
  | cons b actions ih => simp [run, ih]

theorem history_concat (a : Action α) :
    history (actions ++ [a]) = history actions ++ [(a, shown actions a)] := by
  rw [history, run_concat]
  rfl

theorem after_concat (a : Action α) : after (actions ++ [a]) = ((after actions).act a).1 := by
  rw [after, run_concat]
  rfl

/-- **Any actions leave what their history says.** -/
theorem after_eq (actions : List (Action α)) : after actions = ofHistory (history actions) := by
  -- from the end: what the last action shows is told by the history of those before it
  induction actions using List.reverseRecOn with
  | nil => rfl
  | append_singleton actions a ih =>
    rw [after_concat, history_concat, shown, ih, act_ofHistory]

/-- An action shows what the history of the actions before it tells. -/
theorem shown_eq (actions : List (Action α)) (a : Action α) :
    shown actions a = tells (history actions) a := by
  rw [shown, after_eq, act_ofHistory]

/-! ## The laws -/

theorem shown_eq_ready_iff {a : Action α} {value : α} :
    shown actions a = .polled (.ready value) ↔
      (looksFor? (history actions) a).isSome ∧ firstResumed (history actions) = some value := by
  rw [shown_eq, tells_eq_polled_iff (by simp), Option.isSome_iff_exists]
  simp only [look_eq_ready_iff, exists_and_right]

theorem shown_askResumed_iff {b : Bool} :
    shown actions .askResumed = .resumed b ↔
      resumptionDropped (history actions) = false ∧
        (firstResumed (history actions)).isSome = b := by
  cases hdropped : resumptionDropped (history actions) <;> simp [shown_eq, tells, hdropped]

/-- A resumption that can take place is logged, the first one and any later one. -/
theorem shown_resume (value : α) (hdropped : resumptionDropped (history actions) = false) :
    shown actions (.resume value) =
      .logged (if (firstResumed (history actions)).isSome then [repeatedEvent]
        else if waiterGone (history actions) then [lateEvent] else []) := by
  simp only [shown_eq, tells, hdropped, Bool.false_eq_true, if_false]
  split_ifs <;> rfl

/-- What has been resumed with first stays so. -/
theorem firstResumed_append {more : List (Action α)} {value : α}
    (hfirst : firstResumed (history actions) = some value) :
    firstResumed (history (actions ++ more)) = some value := by
  induction more using List.reverseRecOn with
  | nil => rwa [List.append_nil]
  | append_singleton more a ih =>
    rw [← List.append_assoc, history_concat, firstResumed_concat, ih, Option.some_or]

theorem yields_iff {a : Action α} {s : Shown α} :
    Occurrence.yields (a, s) ↔ ∃ value, s = .polled (.ready value) := by
  rcases s with _ | _ | _ | (_ | _ | _ | _) | _ <;> simp

theorem endsWait_of_yields {a : Action α} {s : Shown α} (hyields : Occurrence.yields (a, s)) :
    Occurrence.endsWait (a, s) := by
  obtain ⟨value, rfl⟩ := yields_iff.1 hyields
  cases a <;> rfl

/-- A value is yielded by a wait that is not over, and ends it. -/
theorem countP_yields_le (actions : List (Action α)) :
    (history actions).countP Occurrence.yields ≤
      if waiterGone (history actions) then 1 else 0 := by
  induction actions using List.reverseRecOn with
  | nil => exact Nat.zero_le _
  | append_singleton actions a ih =>
    rw [history_concat, List.countP_append, List.countP_singleton, waiterGone_concat]
    by_cases hyields : Occurrence.yields (a, shown actions a)
    · obtain ⟨value, hvalue⟩ := yields_iff.1 hyields
      have hopen : waiterGone (history actions) = false := by
        have hlooks := (shown_eq_ready_iff.1 hvalue).1
        contrapose! hlooks
        simp [looksFor?, hlooks]
      rw [hopen, if_neg (by simp)] at ih
      rw [hyields, endsWait_of_yields hyields, Bool.or_true]
      simpa using ih
    · rw [if_neg hyields, Nat.add_zero]
      cases hgone : waiterGone (history actions) with
      | true => simpa [hgone] using ih
      | false =>
        rw [hgone, if_neg (by simp)] at ih
        exact Nat.le_trans ih (Nat.zero_le _)

/-- The laws of a continuation to which some actions have happened. -/
structure Laws (actions : List (Action α)) : Prop where
  /-- A wait yields a value exactly if this is the value of the first resumption. -/
  ready (a : Action α) (value : α) : shown actions a = .polled (.ready value) ↔
    (looksFor? (history actions) a).isSome ∧ firstResumed (history actions) = some value
  /-- A wait fails exactly if the resuming half was dropped without a resumption, and its failure
  names the function. -/
  abandoned (a : Action α) (origin : String) : shown actions a = .polled (.abandoned origin) ↔
    looksFor? (history actions) a = some origin ∧ firstResumed (history actions) = Option.none ∧
      resumptionDropped (history actions)
  /-- A wait goes on otherwise. -/
  pending (a : Action α) : shown actions a = .polled .pending ↔
    (looksFor? (history actions) a).isSome ∧ firstResumed (history actions) = Option.none ∧
      ¬resumptionDropped (history actions)
  /-- No more than one value is yielded. -/
  yields_once : (history actions).countP Occurrence.yields ≤ 1
  /-- The first resumption is logged only if the waiting half is gone. -/
  resume_first (value : α) : ¬resumptionDropped (history actions) →
    firstResumed (history actions) = Option.none →
    shown actions (.resume value) =
      .logged (if waiterGone (history actions) then [lateEvent] else [])
  /-- Every later one is logged once, as a warning, and changes nothing. -/
  resume_again (value : α) : ¬resumptionDropped (history actions) →
    (firstResumed (history actions)).isSome →
    (after actions).act (.resume value) = (after actions, .logged [repeatedEvent])
  /-- The resuming half has been resumed exactly if there was a first resumption. -/
  asked : ¬resumptionDropped (history actions) →
    shown actions .askResumed = .resumed (firstResumed (history actions)).isSome
  /-- It turns to having been resumed by a resumption, and by nothing else. -/
  asked_turns (a : Action α) : shown actions .askResumed = .resumed false →
    (shown (actions ++ [a]) .askResumed = .resumed true ↔ ∃ value, a = .resume value)
  /-- It never turns back. -/
  asked_stays (more : List (Action α)) : shown actions .askResumed = .resumed true →
    shown (actions ++ more) .askResumed ≠ .resumed false

/-- **One value, at most once.** Whatever actions happen to a continuation, in whatever order, its
laws hold. -/
theorem history_laws (actions : List (Action α)) : Laws actions where
  ready _ _ := shown_eq_ready_iff
  abandoned a origin := by
    rw [shown_eq, tells_eq_polled_iff (by simp)]
    simp only [look_eq_abandoned_iff]
    constructor
    · rintro ⟨origin, hlooks, rfl, habandoned⟩
      exact ⟨hlooks, habandoned⟩
    · rintro ⟨hlooks, habandoned⟩
      exact ⟨origin, hlooks, rfl, habandoned⟩
  pending a := by
    rw [shown_eq, tells_eq_polled_iff (by simp), Option.isSome_iff_exists]
    simp only [look_eq_pending_iff, exists_and_right]
  yields_once := Nat.le_trans (countP_yields_le actions) (by split_ifs <;> decide)
  resume_first value hdropped hfirst := by
    rw [shown_resume value (by simpa using hdropped), hfirst]
    rfl
  resume_again value hdropped hfirst := by
    rw [after_eq]
    simp [act, resume?, ofHistory, hdropped, hfirst]
  asked hdropped := shown_askResumed_iff.2 ⟨by simpa using hdropped, rfl⟩
  asked_turns a hasked := by
    obtain ⟨hdropped, hfirst⟩ := shown_askResumed_iff.1 hasked
    rw [Option.isSome_eq_false_iff, Option.isNone_iff_eq_none] at hfirst
    rw [shown_askResumed_iff, history_concat, firstResumed_concat, resumptionDropped_concat,
      hdropped, hfirst, Option.none_or]
    cases a with
    | resume value => simp [shown_resume value hdropped]
    | _ => simp
  asked_stays more hasked := by
    obtain ⟨-, hfirst⟩ := shown_askResumed_iff.1 hasked
    obtain ⟨value, hvalue⟩ := Option.isSome_iff_exists.1 hfirst
    intro hlater
    rw [shown_askResumed_iff, firstResumed_append hvalue] at hlater
    exact absurd hlater.2 (by simp)

end DeclSynth.Continuation
