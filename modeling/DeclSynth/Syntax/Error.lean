import DeclSynth.Token
import DeclSynth.Token.Ident

/-!
# Syntax errors

Why a token sequence is no tree of the kind asked for, and where. An error names its
cause; `SyntaxError.message` words it, and says first whether the tokens had run out.
-/

namespace DeclSynth

/-- Something that a reader looks for. -/
inductive Wanted where
  /-- A keyword or an operator, which messages put between backticks. -/
  | token (text : String)
  /-- A kind of token or tree. -/
  | kind (name : String)
deriving DecidableEq, Repr

/-- How messages spell what was looked for. -/
def Wanted.text : Wanted → String
  | token text => "`" ++ text ++ "`"
  | kind name => name

/-- Rules of the language beyond its grammar's shapes. -/
inductive Restriction where
  | chainedComparison
  | boundsWithoutTrait
  | objectWithoutTrait
  | captureNotAllowed
  | constBoundNotAllowed
  | conditionalConstNotAllowed
  | relaxedBinder
  | secondReceiver
  | lateReceiver
  | attributeInAttribute
  | attributeOnRange
  | labelledBreakValue
  | unsuffixedInteger
  | openRangeInSlice
  | negativeInherentImpl
  | indexTooLarge
  | signedIndex
  | parametersOnWhere
  /-- What a cast may not be followed by. -/
  | afterCast (form : String)
deriving DecidableEq, Repr

/-- The wording of a broken rule. -/
def Restriction.text : Restriction → String
  | .chainedComparison => "comparison operators cannot be chained"
  | .boundsWithoutTrait => "at least one trait must be specified"
  | .objectWithoutTrait => "at least one trait is required for an object type"
  | .captureNotAllowed => "`use<...>` precise capturing syntax is not allowed here"
  | .constBoundNotAllowed => "`const` is not allowed here"
  | .conditionalConstNotAllowed => "`[const]` is not allowed here"
  | .relaxedBinder => "`for<...>` binder not allowed with `?` trait polarity modifier"
  | .secondReceiver => "unexpected second method receiver"
  | .lateReceiver => "unexpected method receiver"
  | .attributeInAttribute => "unexpected attribute inside of attribute"
  | .attributeOnRange => "attributes are not allowed on range expressions starting with `..`"
  | .labelledBreakValue => "parentheses required"
  | .unsuffixedInteger => "expected unsuffixed integer"
  | .openRangeInSlice => "range pattern is not allowed unparenthesized inside slice pattern"
  | .negativeInherentImpl => "inherent impls cannot be negative"
  | .indexTooLarge => "number too large to fit in target type"
  | .signedIndex => "invalid digit found in string"
  | .parametersOnWhere =>
    "generic parameters on `where` clauses are reserved for future use"
  | .afterCast form => "casts cannot be followed by " ++ form

/-- Why a reader stopped. -/
inductive SyntaxCause where
  /-- None of what it looked for was there. -/
  | expected (wanted : List Wanted)
  /-- A keyword stood where a name was looked for. -/
  | keyword (word : String)
  /-- Tokens were left over, inside this delimiter if any. -/
  | leftover (within : Option Delimiter)
  /-- A statement ended without its semicolon. -/
  | unterminatedStatement
  /-- A rule was broken. -/
  | restriction (rule : Restriction)
deriving DecidableEq, Repr

/-- The wording of a cause. -/
def SyntaxCause.text : SyntaxCause → String
  | .expected [] => "unexpected token"
  | .expected [a] => "expected " ++ a.text
  | .expected [a, b] => "expected " ++ a.text ++ " or " ++ b.text
  | .expected wanted => "expected one of: " ++ ", ".intercalate (wanted.map Wanted.text)
  | .keyword word => "expected identifier, found keyword `" ++ word ++ "`"
  | .leftover none => "unexpected token"
  | .leftover (some d) => "unexpected token, expected `" ++ d.closing.toString ++ "`"
  | .unterminatedStatement => "unexpected token, expected `;`"
  | .restriction rule => rule.text

/-- A cause, where it lies, and whether the tokens had run out there. -/
structure SyntaxError where
  span : Span
  atEnd : Bool
  cause : SyntaxCause
deriving DecidableEq, Repr

/-- The wording of a syntax error. -/
def SyntaxError.message (e : SyntaxError) : String :=
  match e.atEnd, e.cause with
  | true, .expected [] => "unexpected end of input"
  | true, cause => "unexpected end of input, " ++ cause.text
  | false, cause => cause.text

end DeclSynth
