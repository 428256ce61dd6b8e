import DeclSynth.Context
import DeclSynth.Expansion.Outcome

/-!
# Expanding in a context

An expander that asks for the configuration or warns is handed the context of the expansion.
It may read all of the context, what was reported before included, and its reports are added
to it. `InContext.fresh` is what such an expander comes to in a context in which nothing has
been reported; an outcome that needs no context is carried out in any (`Outcome.carryOut`).
-/

namespace DeclSynth

/-- The context of an expansion, and the events logged so far. -/
structure Session where
  context : Context
  events : List Event

/-- A session in which nothing has been reported or logged. -/
def Session.ofConfig (c : Config) : Session := ⟨.ofConfig c, []⟩

/-- What is done in a context: it comes to a value or stops, and leaves a context in either case. -/
abbrev InContext := ExceptT Stop (StateM Session)

namespace InContext

variable {α : Type}

/-- The configuration in use. -/
def config : InContext Config := return (← get).context.config

/-- Stops with a cause at a place. -/
def fail (error : ExpandError) (span : Span) : InContext α := throw (.failure (error.at span))

/-- Logs an event. -/
def log (level : Level) (message : String) (fields : List (String × String)) : InContext Unit :=
  modify fun s => { s with events := s.events ++ [⟨level, message, fields⟩] }

/-- Reports a diagnostic, which is also logged. -/
def report (d : Diagnostic) : InContext Unit :=
  modify fun s => ⟨s.context.add [d], s.events ++ [d.event]⟩

/-- Reports a warning. -/
def warn (span : Span) (message : String) : InContext Unit := report ⟨message, .warning, span⟩

/-- What a program comes to in a context in which nothing has been reported. -/
def fresh (p : InContext α) (c : Config) : Outcome α :=
  let (result, s) := p (.ofConfig c)
  ⟨result, s.context.diagnostics, s.events⟩

end InContext

/-- Carries an outcome out in a context, which is left with all that it reports. -/
def Outcome.carryOut {α : Type} (x : Outcome α) : InContext α := fun s =>
  (x.result, ⟨s.context.add x.diagnostics, s.events ++ x.events⟩)

instance : MonadLift Outcome InContext := ⟨Outcome.carryOut⟩

end DeclSynth
