import DeclSynth.ExpandError

/-!
# Outcomes

An expansion yields tokens or stops. On the way it reports diagnostics and logs events,
which are kept also when it stops.
-/

namespace DeclSynth

/-- Why an expansion stops. -/
inductive Stop where
  /-- It fails, and the failure is reported. -/
  | failure (failure : Failure)
  /-- A name that it builds is none. -/
  | panic (fault : NameFault)
deriving DecidableEq

/-- What an expansion yields, or why it stops, with all it reported and logged before. -/
structure Outcome (α : Type) where
  result : Except Stop α
  diagnostics : Diagnostics
  events : List Event

namespace Outcome

variable {α β : Type}

/-- Yields a value at once. -/
protected def pure (a : α) : Outcome α := ⟨.ok a, [], []⟩

/-- Goes on with what the first part yields; what it reported comes first. -/
protected def bind (first : Outcome α) (next : α → Outcome β) : Outcome β :=
  match first.result with
  | .ok a =>
    let second := next a
    ⟨second.result, first.diagnostics ++ second.diagnostics, first.events ++ second.events⟩
  | .error stop => ⟨.error stop, first.diagnostics, first.events⟩

instance : Monad Outcome where
  pure := Outcome.pure
  bind := Outcome.bind

/-- Stops. -/
def stop (s : Stop) : Outcome α := ⟨.error s, [], []⟩

/-- Stops with a cause at a place. -/
def fail (error : ExpandError) (span : Span) : Outcome α := stop (.failure (error.at span))

/-- Goes on with a value unless a check failed. -/
def ofExcept : Except Failure α → Outcome α
  | .ok a => .pure a
  | .error f => stop (.failure f)

instance : MonadLift (Except Failure) Outcome := ⟨ofExcept⟩

/-- Goes on with a tree unless the tokens were none. -/
def ofSyntax : Except SyntaxError α → Outcome α
  | .ok a => .pure a
  | .error e => stop (.failure (.ofSyntax e))

instance : MonadLift (Except SyntaxError) Outcome := ⟨ofSyntax⟩

/-- Goes on with a name unless the text was none. -/
def ofName : Except NameFault α → Outcome α
  | .ok a => .pure a
  | .error fault => stop (.panic fault)

instance : MonadLift (Except NameFault) Outcome := ⟨ofName⟩

/-- Logs an event. -/
def log (level : Level) (message : String) (fields : List (String × String)) : Outcome Unit :=
  ⟨.ok (), [], [⟨level, message, fields⟩]⟩

/-- Reports a diagnostic, which is also logged. -/
def report (d : Diagnostic) : Outcome Unit := ⟨.ok (), [d], [d.event]⟩

/-- Reports a warning. -/
def warn (span : Span) (message : String) : Outcome Unit := report ⟨message, .warning, span⟩

end Outcome

end DeclSynth
