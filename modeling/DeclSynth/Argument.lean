import DeclSynth.ExpandError
import DeclSynth.Syntax.Parse

/-!
# Argument lists

Arguments are written `label = value`; the first one may be a bare value. A list is
checked against an `ArgumentSpec` before any value is looked at. Labels are compared
without the mark of a raw name.
-/

namespace DeclSynth

/-- An argument: its label, if it has one, and its value. -/
structure Argument where
  label : Option Ident
  value : Expr

/-- Where an argument stands: at its label, or else at its value. -/
def Argument.span (a : Argument) : Span :=
  match a.label with
  | some label => label.span
  | none => a.value.span

/-- The label as it is compared. -/
def Argument.key? (a : Argument) : Option String := a.label.map Ident.plainText

/-- Whether a list may start with a bare value. -/
inductive Positional where
  | forbidden
  | optional
  /-- It has to; messages say what is missing. -/
  | required (what : String)
deriving DecidableEq, Repr

/-- What an expander takes. -/
structure ArgumentSpec where
  expander : String
  labels : List String
  required : List String
  positional : Positional
deriving DecidableEq, Repr

/-- The arguments of one invocation, in order, and where messages about the list point. -/
structure ArgumentList where
  arguments : List Argument
  span : Span

namespace Grammar

open DeclSynth.Parser

/-- An argument. A word and an equals sign are a label. -/
def argument (g : Grammar) : Parser Argument := do
  let labelled := (← peek isWord) && (← peek2 (isOp "=")) && !(← peek2 (isOp "=="))
  if labelled then
    let label ← anyIdent
    let _ ← sign "="
    return ⟨some label, ← g.expr true⟩
  return ⟨none, ← g.expr true⟩

end Grammar

namespace ArgumentList

/-- The arguments that tokens spell. -/
def parse (ts : Tokens) : Except SyntaxError ArgumentList := do
  match ts with
  | [] => return ⟨[], .callSite⟩
  | first :: _ =>
    let list ← parseWith (fun g => Parser.commaSeparated (Grammar.argument g)) .callSite ts
    return ⟨list.values, first.span⟩

/-- The arguments of an attribute. -/
def ofAttribute (a : Attribute) : Except Failure ArgumentList :=
  match a.form with
  | .path => .ok ⟨[], a.span⟩
  | .list body _ =>
    match parse body with
    | .ok list => .ok ⟨list.arguments, a.span⟩
    | .error e => .error (.ofSyntax e)
  | .nameValue span _ =>
    let name := "::".intercalate (a.path.map Ident.text)
    .error ((ExpandError.invalidArgument name "a parenthesised argument list").at span)

/-- The bare value at the beginning of the list. -/
def positional (l : ArgumentList) : Option Expr :=
  match l.arguments with
  | ⟨none, value⟩ :: _ => some value
  | _ => none

/-! ## Checking -/

/-- Checks one argument, after the labels seen before it; gives all labels seen then. -/
def checkArgument (spec : ArgumentSpec) (first : Bool) (seen : List String) (a : Argument) :
    Except Failure (List String) :=
  match a.label with
  | some label =>
    let key := label.plainText
    if !spec.labels.contains key then
      .error ((ExpandError.unknownArgument spec.expander key).at label.span)
    else if seen.contains key then .error ((ExpandError.duplicateArgument key).at label.span)
    else .ok (key :: seen)
  | none =>
    if !first || spec.positional == .forbidden then
      .error ((ExpandError.unexpectedPositional spec.expander).at a.value.span)
    else .ok seen

/-- Checks arguments from left to right; gives the labels seen. -/
def checkArguments (spec : ArgumentSpec) : (first : Bool) → (seen : List String) →
    List Argument → Except Failure (List String)
  | _, seen, [] => .ok seen
  | first, seen, a :: rest =>
    match checkArgument spec first seen a with
    | .ok seen => checkArguments spec false seen rest
    | .error f => .error f

/-- Checks that nothing is missing, given the labels seen. -/
def checkPresence (spec : ArgumentSpec) (l : ArgumentList) (seen : List String) :
    Except Failure Unit :=
  match spec.positional, l.positional with
  | .required what, none => .error ((ExpandError.missingArgument what).at l.span)
  | _, _ =>
    match spec.required.find? (!seen.contains ·) with
    | some label =>
      .error ((ExpandError.missingArgument ("`" ++ label ++ "` argument")).at l.span)
    | none => .ok ()

/-- Checks the list against what an expander takes. -/
def validate (l : ArgumentList) (spec : ArgumentSpec) : Except Failure Unit :=
  match checkArguments spec true [] l.arguments with
  | .ok seen => checkPresence spec l seen
  | .error f => .error f

/-! ## Looking up -/

/-- The argument with a label. -/
def get? (l : ArgumentList) (label : String) : Option Argument :=
  l.arguments.find? (·.key? == some label)

/-- The value under a label. -/
def value? (l : ArgumentList) (label : String) : Option Expr := (l.get? label).map (·.value)

/-- The unqualified path that an expression is. -/
def pathOf? (value : Expr) : Option Path :=
  match value.outline with
  | .path false path => some path
  | _ => none

/-- The path under a label. -/
def path (l : ArgumentList) (label : String) : Except Failure (Option Path) :=
  match l.value? label with
  | none => .ok none
  | some value =>
    match pathOf? value with
    | some path => .ok (some path)
    | none => .error ((ExpandError.invalidArgument label "a path").at value.span)

/-- The name under a label. -/
def ident (l : ArgumentList) (label : String) : Except Failure (Option Ident) :=
  match l.path label with
  | .error f => .error f
  | .ok none => .ok none
  | .ok (some path) =>
    match path.ident? with
    | some name => .ok (some name)
    | none => .error ((ExpandError.invalidArgument label "an identifier").at path.span)

/-- The text and place of the string literal that a value is. -/
def expectString (value : Expr) (label : String) : Except Failure (String × Span) :=
  let refuse := Except.error ((ExpandError.invalidArgument label "a string literal").at value.span)
  match value.outline with
  | .literal text span => if Literal.kind text = .text then .ok (text, span) else refuse
  | _ => refuse

/-- The string literal under a label. -/
def string (l : ArgumentList) (label : String) : Except Failure (Option (String × Span)) :=
  match l.value? label with
  | none => .ok none
  | some value => (expectString value label).map some

/-- The name that an element of a list is. -/
def elementOf (label : String) (element : Expr) : Except Failure Ident :=
  match (pathOf? element).bind Path.ident? with
  | some name => .ok name
  | none =>
    .error ((ExpandError.invalidArgument label
      "a list of identifiers such as `[A, B]`").at element.span)

/-- The names listed under a label; none without the label. -/
def identList (l : ArgumentList) (label : String) : Except Failure (List Ident) :=
  match l.value? label with
  | none => .ok []
  | some value =>
    match value.outline with
    | .array elems => elems.mapM (elementOf label)
    | _ =>
      .error ((ExpandError.invalidArgument label
        "a list of identifiers such as `[A, B]`").at value.span)

end ArgumentList

end DeclSynth
