import DeclSynth.Event
import DeclSynth.Token.Build

/-!
# Diagnostics

A diagnostic is a message for whoever reads the compiler's output, at a place in the
source. Reporting one never stops an expansion. `Diagnostics` collects them in the order
of their reports; errors and warnings are then written as code that makes the compiler
print them.
-/

namespace DeclSynth

/-- How bad a diagnostic is. -/
inductive Severity where
  | warning
  | error
deriving DecidableEq, Repr

/-- How messages spell a severity. -/
def Severity.text : Severity → String
  | warning => "warning"
  | error => "error"

/-- What data files call a severity. -/
def Severity.tag : Severity → String
  | warning => "Warning"
  | error => "Error"

/-- A message at a place. -/
structure Diagnostic where
  message : String
  severity : Severity
  span : Span
deriving DecidableEq, Repr

namespace Diagnostic

/-- Whether the diagnostic is an error. -/
def isError (d : Diagnostic) : Bool := d.severity == .error

/-- The severity and the message. -/
def display (d : Diagnostic) : String := d.severity.text ++ ": " ++ d.message

/-- What the log says of a report. -/
def event (d : Diagnostic) : Event := ⟨.debug, d.message, [("severity", d.severity.text)]⟩

/-- The invocation that makes the compiler print an error. -/
def errorTokens (d : Diagnostic) : Tokens :=
  absolute ["core", "compile_error"] ++ op "!" ++ brace (str d.message)

/-- The item that makes the compiler print a warning: a deprecated unit struct that is used at
once, inside a constant without a name. -/
def warningTokens (d : Diagnostic) : Tokens :=
  let marker := kw "expando_warning"
  kw "const" ++ kw "_" ++ op ":" ++ paren [] ++ op "=" ++ brace (
    op "#" ++ bracket (kw "deprecated" ++ paren (kw "note" ++ op "=" ++ str d.message)) ++
    op "#" ++ bracket (kw "allow" ++ paren (kw "non_camel_case_types")) ++
    kw "struct" ++ marker ++ op ";" ++
    kw "let" ++ kw "_" ++ op "=" ++ marker ++ op ";") ++ op ";"

end Diagnostic

/-- The diagnostics of one expansion, in the order of their reports. -/
abbrev Diagnostics := List Diagnostic

namespace Diagnostics

/-- Whether one of the diagnostics is an error. -/
def hasErrors (ds : Diagnostics) : Bool := ds.any Diagnostic.isError

/-- The errors among the diagnostics. -/
def errors (ds : Diagnostics) : Diagnostics := ds.filter Diagnostic.isError

/-- The warnings among the diagnostics. -/
def warnings (ds : Diagnostics) : Diagnostics := ds.filter (!·.isError)

/-- Code that makes the compiler print the errors, one after the other. -/
def errorTokens (ds : Diagnostics) : Tokens := ds.errors.flatMap Diagnostic.errorTokens

/-- Code that makes the compiler print the warnings, one after the other. -/
def warningTokens (ds : Diagnostics) : Tokens := ds.warnings.flatMap Diagnostic.warningTokens

end Diagnostics

end DeclSynth
