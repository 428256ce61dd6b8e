import DeclSynth.Config.Read
import DeclSynth.Expander
import DeclSynth.ExpandError

/-!
# Contexts

An expansion happens in a context: its configuration, and the diagnostics reported so
far. `Context.finish` turns what an expander yields into the final tokens, with one
warning item and one error invocation for each diagnostic.
-/

namespace DeclSynth

/-- The configuration of an expansion, and the diagnostics reported so far, in order. -/
structure Context where
  config : Config
  diagnostics : Diagnostics

namespace Context

/-- A context in which nothing has been reported. -/
def ofConfig (c : Config) : Context := ⟨c, []⟩

/-- The context with more diagnostics. -/
def add (cx : Context) (ds : Diagnostics) : Context :=
  { cx with diagnostics := cx.diagnostics ++ ds }

/-- The context with a failure reported. -/
def report (cx : Context) (f : Failure) : Context := cx.add [f.diagnostic]

/-- The context with a warning reported. -/
def warn (cx : Context) (span : Span) (message : String) : Context :=
  cx.add [⟨message, .warning, span⟩]

/-- The context that a setting of the environment asks for. Where it is not usable, that is
reported and the default configuration takes its place. -/
def ofEnvironment (environment : Option String) : Context :=
  match Config.load environment with
  | .ok c => .ofConfig c
  | .error e => (ofConfig .default).report (e.at .callSite)

/-- A body with its diagnostics. Where an expression is wanted, errors and warnings go before the
body, inside braces around all of it; elsewhere warnings and then errors go behind it. -/
def assemble (site : ExpansionSite) (ds : Diagnostics) (body : Tokens) : Tokens :=
  if site = .freestandingExpression ∧ ds ≠ [] then
    brace (ds.errorTokens ++ ds.warningTokens ++ body)
  else body ++ ds.warningTokens ++ ds.errorTokens

/-- The tokens that an expander's result becomes. A failure is reported, and `fallback` takes the
place of the tokens. -/
def finish (cx : Context) (kind : Expander) (result : Except Failure Tokens)
    (fallback : Tokens) : Tokens :=
  match result with
  | .ok body => assemble kind.site cx.diagnostics body
  | .error f => assemble kind.site (cx.report f).diagnostics fallback

end Context

end DeclSynth
