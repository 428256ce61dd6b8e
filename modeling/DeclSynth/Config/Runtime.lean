import DeclSynth.Argument
import DeclSynth.Config

/-!
# Where generated code finds its runtime

An expander's `crate` argument takes the place of the configured runtime path. Without
one, a configured text that is no path is reported at the argument list.
-/

namespace DeclSynth

/-- A check of the configuration, reported at a place. -/
def Config.reportAt {α : Type} (span : Span) : Except ExpandError α → Except Failure α
  | .ok a => .ok a
  | .error e => .error (e.at span)

/-- The runtime path of one expansion. -/
def Config.runtimeFor (c : Config) (args : ArgumentList) : Except Failure Path :=
  match args.path "crate" with
  | .error f => .error f
  | .ok (some path) => .ok path
  | .ok none => reportAt args.span c.runtimePath

end DeclSynth
