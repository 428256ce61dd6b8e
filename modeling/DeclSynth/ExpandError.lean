import DeclSynth.Diagnostic
import DeclSynth.Syntax.Error

/-!
# Why an expansion fails

`ExpandError` names the causes, `ExpandError.message` words them, and
`ExpandError.category` sorts them into four broad classes. A failure is a cause at the
place it is reported at.
-/

namespace DeclSynth

/-- The broad classes of failure. -/
inductive ErrorCategory where
  /-- The item is of a kind that the expander does not support. -/
  | shape
  /-- An argument is missing or malformed. -/
  | argument
  /-- A signature does not fit. -/
  | signature
  /-- The configuration is unusable. -/
  | configuration
deriving DecidableEq, Repr

/-- What data files call a category. -/
def ErrorCategory.tag : ErrorCategory → String
  | shape => "Shape"
  | argument => "Argument"
  | signature => "Signature"
  | configuration => "Configuration"

/-- A cause of failure. -/
inductive ExpandError where
  | unsupportedTarget (expander expected : String)
  | moduleWithoutBody
  | variantNotStruct
  | generatedNameClash (name : String)
  | noStoredFields
  | unknownArgument (expander label : String)
  | duplicateArgument (label : String)
  | unexpectedPositional (expander : String)
  | missingArgument (what : String)
  | invalidArgument (label expected : String)
  | unsupportedDefaultValue
  | undeclaredRole (role : String)
  | discriminatorNameClash (first second name : String)
  | invalidUrl (reason : String)
  | alreadyAsync
  | nonUnitReturn
  | missingCompletionHandler
  | completionHandlerReturnsValue
  | completionHandlerArity
  | elidedPayloadLifetime (payload : String)
  /-- Tokens that are not the syntax asked for. -/
  | malformed (text : String)
  /-- A configuration that is not usable. -/
  | config (text : String)
deriving DecidableEq, Repr

namespace ExpandError

/-- A text between backticks. -/
def quoted (text : String) : String := "`" ++ text ++ "`"

/-- The wording of a cause. -/
def message : ExpandError → String
  | unsupportedTarget expander expected => quoted expander ++ " can only be applied to " ++ expected
  | moduleWithoutBody => "`#[sealed]` requires an inline module with a body"
  | variantNotStruct => "`#[variant]` can only be applied to a struct"
  | generatedNameClash name =>
    quoted name ++ " is generated by `#[sealed]` and clashes with an item of the same name"
  | noStoredFields => "`#[stored_access]` requires at least one field marked `#[stored(..)]`"
  | unknownArgument expander label =>
    "unknown argument " ++ quoted label ++ " for " ++ quoted expander
  | duplicateArgument label => "duplicate argument " ++ quoted label
  | unexpectedPositional expander => quoted expander ++ " does not take a positional argument here"
  | missingArgument what => "missing " ++ what
  | invalidArgument label expected => quoted label ++ " expects " ++ expected
  | unsupportedDefaultValue =>
    "unsupported default value; expected a bool, integer, string or float literal, " ++
      "or a qualified constant"
  | undeclaredRole role => "role " ++ quoted role ++ " is not listed in `roles`"
  | discriminatorNameClash first second name =>
    "roles " ++ quoted first ++ " and " ++ quoted second ++
      " both derive the discriminator name " ++ quoted name
  | invalidUrl reason => "malformed URL: " ++ reason
  | alreadyAsync => "`#[add_async]` requires a function that is not already async"
  | nonUnitReturn => "`#[add_async]` requires a function that returns `()`"
  | missingCompletionHandler =>
    "`#[add_async]` requires a function that has a completion handler as last parameter"
  | completionHandlerReturnsValue =>
    "`#[add_async]` requires a completion handler that returns `()`"
  | completionHandlerArity =>
    "`#[add_async]` requires a completion handler taking at most one argument"
  | elidedPayloadLifetime payload =>
    "`#[add_async]` cannot return " ++ quoted payload ++
      " from the async peer; name its lifetime or pass an owned value"
  | malformed text => text
  | config text => "invalid expansion configuration: " ++ text

/-- The class that a cause belongs to. -/
def category : ExpandError → ErrorCategory
  | unsupportedTarget .. | moduleWithoutBody | variantNotStruct | generatedNameClash _
  | noStoredFields => .shape
  | unknownArgument .. | duplicateArgument _ | unexpectedPositional _ | missingArgument _
  | invalidArgument .. | unsupportedDefaultValue | undeclaredRole _ | discriminatorNameClash ..
  | invalidUrl _ | malformed _ => .argument
  | alreadyAsync | nonUnitReturn | missingCompletionHandler | completionHandlerReturnsValue
  | completionHandlerArity | elidedPayloadLifetime _ => .signature
  | config _ => .configuration

/-- Every cause is fatal to the expansion it stops. -/
def severity (_ : ExpandError) : Severity := .error

end ExpandError

/-- A cause and the place it is reported at. -/
structure Failure where
  error : ExpandError
  span : Span
deriving DecidableEq, Repr

/-- The cause, reported at a place. -/
def ExpandError.at (error : ExpandError) (span : Span) : Failure := ⟨error, span⟩

/-- The diagnostic that reports a failure. -/
def Failure.diagnostic (f : Failure) : Diagnostic := ⟨f.error.message, f.error.severity, f.span⟩

/-- A syntax error as a failure. -/
def Failure.ofSyntax (e : SyntaxError) : Failure := ⟨.malformed e.message, e.span⟩

end DeclSynth
